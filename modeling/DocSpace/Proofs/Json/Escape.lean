import DocSpace.Json.Encode
import DocSpace.Proofs.Redaction.Key
import DocSpace.Proofs.Success
import DocSpace.Proofs.Text.Digit
import DocSpace.Proofs.Text.Pieces

set_option autoImplicit false

namespace DocSpace.Json

open Text Redaction

theorem ampersand_not_mem_unitEscape (n : Nat) : '&' ∉ unitEscape n := by
  intro member
  rw [unitEscape, List.mem_cons, List.mem_cons] at member
  rcases member with mark | mark | digit
  · exact absurd mark (by decide)
  · exact absurd mark (by decide)
  · obtain ⟨d, small, same⟩ := digit_of_mem_hexDigits digit
    have other : ∀ d < 16, '&' ≠ hexDigit d := by decide
    exact other d small same

theorem ampersand_not_mem_escapeChar (asciiOnly : Bool) {c : Char} (other : c ≠ '&') :
    '&' ∉ escapeChar asciiOnly c := by
  have alone : '&' ∉ [c] := fun member => other (List.mem_singleton.mp member).symm
  have units : '&' ∉ (codeUnits c.toNat).flatMap unitEscape := by
    intro member
    obtain ⟨n, _, unit⟩ := List.mem_flatMap.mp member
    exact ampersand_not_mem_unitEscape n unit
  unfold escapeChar
  split
  · exact List.not_mem_cons_of_ne_of_not_mem (by decide) alone
  · repeat' split
    all_goals first | exact alone | exact units | decide

theorem flatMap_escapeChar_keyMark (asciiOnly : Bool) :
    keyMark.flatMap (escapeChar asciiOnly) = keyMark := by
  cases asciiOnly <;> decide

theorem twins_encodeText (asciiOnly : Bool) {s t : String} (twins : Twins s.toList t.toList) :
    Twins (encodeText asciiOnly s).toList (encodeText asciiOnly t).toList := by
  have inner := twins.flatMap (flatMap_escapeChar_keyMark asciiOnly)
    fun c other => ampersand_not_mem_escapeChar asciiOnly other
  simp only [encodeText, String.toList_ofList, List.cons_append]
  exact (inner.append_right ['"']).append_left ['"']

variable (style : Style) (es fs : List (Value × Value)) (k : Value)

theorem encodeEntries_cons_cases (v : Value) :
    (∃ f, ∀ fs, encodeEntries style ((k, v) :: fs) = .error f) ∨
      ∃ member, ∀ fs, encodeEntries style ((k, v) :: fs) =
        (encodeEntries style fs).map (member :: ·) := by
  cases named : keyText style k with
  | error f => exact Or.inl ⟨f, fun fs => by rw [encodeEntries, named]; rfl⟩
  | ok name =>
      cases own : encode style v with
      | error f => exact Or.inl ⟨f, fun fs => by rw [encodeEntries, named, own]; rfl⟩
      | ok shown =>
          refine Or.inr
            ⟨encodeText style.asciiOnly name ++ style.keySeparator ++ shown, fun fs => ?_⟩
          rw [encodeEntries, named, own]
          cases encodeEntries style fs <;> rfl

/-- A text in front of other members is written, or not, whatever the text is. -/
theorem encodeEntries_text_cons :
    (∃ f, ∀ s, encodeEntries style ((k, .text s) :: fs) = .error f) ∨
      ∃ name ts, ∀ s, encodeEntries style ((k, .text s) :: fs) =
        .ok ((name ++ encodeText style.asciiOnly s) :: ts) := by
  cases named : keyText style k with
  | error f => exact Or.inl ⟨f, fun s => by rw [encodeEntries, named]; rfl⟩
  | ok name =>
      cases others : encodeEntries style fs with
      | error f => exact Or.inl ⟨f, fun s => by rw [encodeEntries, named, others]; rfl⟩
      | ok ts =>
          refine Or.inr ⟨encodeText style.asciiOnly name ++ style.keySeparator, ts, fun s => ?_⟩
          rw [encodeEntries, named, others]
          rfl

theorem encodeEntries_around_text :
    (∃ f, ∀ s, encodeEntries style (es ++ (k, .text s) :: fs) = .error f) ∨
      ∃ ss name ts, ∀ s, encodeEntries style (es ++ (k, .text s) :: fs) =
        .ok (ss ++ (name ++ encodeText style.asciiOnly s) :: ts) := by
  induction es with
  | nil =>
      rcases encodeEntries_text_cons style fs k with fails | ⟨name, ts, written⟩
      · exact Or.inl fails
      · exact Or.inr ⟨[], name, ts, written⟩
  | cons e es ih =>
      rcases encodeEntries_cons_cases style e.1 e.2 with ⟨f, fails⟩ | ⟨member, step⟩
      · exact Or.inl ⟨f, fun s => fails _⟩
      · rcases ih with ⟨f, fails⟩ | ⟨ss, name, ts, written⟩
        · refine Or.inl ⟨f, fun s => ?_⟩
          rw [List.cons_append, step, fails]
          rfl
        · refine Or.inr ⟨member :: ss, name, ts, fun s => ?_⟩
          rw [List.cons_append, step, written]
          rfl

/-- The document around it is written, or not, whatever the text is. -/
theorem encode_around_text :
    (∃ f, ∀ s, encode style (.dict (es ++ (k, .text s) :: fs)) = .error f) ∨
      ∃ before after, ∀ s, encode style (.dict (es ++ (k, .text s) :: fs)) =
        .ok (before ++ encodeText style.asciiOnly s ++ after) := by
  rcases encodeEntries_around_text style es fs k with ⟨f, fails⟩ | ⟨ss, name, ts, written⟩
  · exact Or.inl ⟨f, fun s => by rw [encode, fails]; rfl⟩
  · obtain ⟨before, after, same⟩ := joined_around style.itemSeparator ss ts
    refine Or.inr ⟨"\x7b" ++ before ++ name, after ++ "\x7d", fun s => ?_⟩
    rw [encode, written]
    show Except.ok (Value.braced (joined style.itemSeparator _)) = _
    rw [same]
    simp only [Value.braced, String.append_assoc]

end DocSpace.Json
