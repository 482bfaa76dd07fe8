import DocSpace.Proofs.Text.Digit

set_option autoImplicit false

namespace DocSpace.Text

def IsQuote (quote : Char) : Prop := quote = '\'' ∨ quote = '"'

/-- How many digits follow the letter of an escape by number. -/
def escapeWidth? (c : Char) : Option Nat :=
  if c = 'x' then some 2 else if c = 'u' then some 4 else if c = 'U' then some 8 else none

def shortEscape (c : Char) : Char :=
  if c = 'n' then '\n' else if c = 'r' then '\r' else if c = 't' then '\t' else c

/-- The first character of what an escaped text stands for, and what is left. -/
def unescape? : List Char → Option (Char × List Char)
  | '\\' :: c :: cs =>
    match escapeWidth? c with
    | some width => (numberIn? 16 (cs.take width)).map fun n => (Char.ofNat n, cs.drop width)
    | none => some (shortEscape c, cs)
  | c :: cs => some (c, cs)
  | [] => none

variable {quote : Char}

theorem unescape?_of_ne {c : Char} (plain : c ≠ '\\') (rest : List Char) :
    unescape? (c :: rest) = some (c, rest) := by
  unfold unescape?
  split
  · next same => exact absurd (List.cons.inj same).1 plain
  · next same =>
      obtain ⟨rfl, rfl⟩ := List.cons.inj same
      rfl
  · next empty => cases empty

theorem unescape?_digits {letter c : Char} {width : Nat} (form : escapeWidth? letter = some width)
    (fits : c.toNat < 16 ^ width) (rest : List Char) :
    unescape? ('\\' :: letter :: hexDigits width c.toNat ++ rest) = some (c, rest) := by
  have front : (hexDigits width c.toNat ++ rest).take width = hexDigits width c.toNat := by
    rw [List.take_left' (length_hexDigits width _)]
  have back : (hexDigits width c.toNat ++ rest).drop width = rest := by
    rw [List.drop_left' (length_hexDigits width _)]
  show unescape? ('\\' :: letter :: (hexDigits width c.toNat ++ rest)) = _
  simp only [unescape?, form, front, back, numberIn?_hexDigits fits, Option.map_some,
    Char.ofNat_toNat]

theorem unescape?_escapeUnprintable (c : Char) (rest : List Char) :
    unescape? (escapeUnprintable c.toNat ++ rest) = some (c, rest) := by
  have bound : c.toNat < 16 ^ 8 := by
    have range := toNat_range c
    omega
  unfold escapeUnprintable
  split
  · next small => exact unescape?_digits rfl (by omega) rest
  · split
    · next small => exact unescape?_digits rfl (by omega) rest
    · exact unescape?_digits rfl bound rest

theorem unescape?_escapeQuoted (isQuote : IsQuote quote) (c : Char) (rest : List Char) :
    unescape? (escapeQuoted quote c ++ rest) = some (c, rest) := by
  unfold escapeQuoted
  split
  · next special =>
      rcases special with rfl | rfl
      · rcases isQuote with rfl | rfl <;> rfl
      · rfl
  · next ordinary =>
      split
      · next same => exact same ▸ rfl
      · split
        · next same => exact same ▸ rfl
        · split
          · next same => exact same ▸ rfl
          · split
            · exact unescape?_of_ne (fun same => ordinary (Or.inr same)) rest
            · exact unescape?_escapeUnprintable c rest

/-- What stands for a character does not begin with the quote that encloses it. -/
theorem escapeQuoted_eq_cons (isQuote : IsQuote quote) (c : Char) :
    ∃ first rest, escapeQuoted quote c = first :: rest ∧ first ≠ quote := by
  have backslash : '\\' ≠ quote := by
    rcases isQuote with rfl | rfl <;> decide
  unfold escapeQuoted escapeUnprintable
  split
  · exact ⟨_, _, rfl, backslash⟩
  · next ordinary =>
      repeat' split
      all_goals first
        | exact ⟨_, _, rfl, backslash⟩
        | exact ⟨_, _, rfl, fun same => ordinary (Or.inl same)⟩

/-- The quote ends what it encloses, so texts in the same quotes are told apart. -/
theorem eq_of_flatMap_escapeQuoted (isQuote : IsQuote quote) {cs ds u w : List Char}
    (same : cs.flatMap (escapeQuoted quote) ++ quote :: u =
      ds.flatMap (escapeQuoted quote) ++ quote :: w) : cs = ds := by
  induction cs generalizing ds with
  | nil =>
      cases ds with
      | nil => rfl
      | cons d ds =>
          obtain ⟨first, rest, head, other⟩ := escapeQuoted_eq_cons isQuote d
          rw [List.flatMap_cons, head] at same
          exact absurd (List.cons.inj same).1.symm other
  | cons c cs ih =>
      cases ds with
      | nil =>
          obtain ⟨first, rest, head, other⟩ := escapeQuoted_eq_cons isQuote c
          rw [List.flatMap_cons, head] at same
          exact absurd (List.cons.inj same).1 other
      | cons d ds =>
          have read := congrArg unescape? same
          rw [List.flatMap_cons, List.flatMap_cons, List.append_assoc, List.append_assoc,
            unescape?_escapeQuoted isQuote, unescape?_escapeQuoted isQuote] at read
          obtain ⟨first, rest⟩ := Prod.mk.inj (Option.some.inj read)
          rw [first, ih rest]

theorem isQuote_enclosingQuote (cs : List Char) : IsQuote (enclosingQuote cs) := by
  unfold enclosingQuote
  split
  · exact Or.inr rfl
  · exact Or.inl rfl

/-- A text that begins with a quoted form shows what is quoted. -/
theorem eq_of_quoted_append {s t : String} {u w : List Char}
    (same : (quoted s).toList ++ u = (quoted t).toList ++ w) : s = t := by
  simp only [quoted, String.toList_ofList, quoteChars, List.cons_append, List.append_assoc,
    List.nil_append] at same
  obtain ⟨quotes, same⟩ := List.cons.inj same
  rw [← quotes] at same
  exact String.toList_inj.mp (eq_of_flatMap_escapeQuoted (isQuote_enclosingQuote _) same)

end DocSpace.Text
