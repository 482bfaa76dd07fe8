import DocSpace.Proofs.Json.Key
import DocSpace.Proofs.Value.StringKeyed

set_option autoImplicit false

namespace DocSpace.Json

open Number Text Value

theorem isKey_of_text {k : Value} (text : k.asText?.isSome = true) : isKey k = true := by
  cases k with
  | text _ | textMember _ _ _ => rfl
  | _ => cases text

/-- A lenient writer has room for every value, if keys are texts. -/
theorem exists_encode {style : Style} (lenient : style.IsLenient) (v : Value)
    (keyed : v.isStringKeyed = true) : ∃ s, encode style v = .ok s := by
  refine (encode_ends lenient v).exists_ok_iff.mpr ?_
  rintro k ⟨odd, es, w, inside, entry⟩
  have names := isStringKeyed_of_within inside keyed
  rw [isKey_of_text (of_mem_entriesStringKeyed names entry).1] at odd
  cases odd

theorem encode_ok (v : Value) (keyed : v.isStringKeyed = true) :
    ∃ s, encode logStyle v = .ok s :=
  exists_encode isLenient_logStyle v keyed

theorem escapeChar_ne_nil (asciiOnly : Bool) (c : Char) : escapeChar asciiOnly c ≠ [] := by
  have units (n : Nat) : (codeUnits n).flatMap unitEscape ≠ [] := by
    rw [codeUnits]
    split <;> exact List.cons_ne_nil _ _
  unfold escapeChar
  repeat' split
  all_goals first | exact List.cons_ne_nil _ _ | exact units _

theorem length_le_flatMap {f : Char → List Char} (filled : ∀ c, f c ≠ []) (cs : List Char) :
    cs.length ≤ (cs.flatMap f).length := by
  induction cs with
  | nil => exact Nat.le_refl 0
  | cons c cs ih =>
      have own := List.length_pos_iff.mpr (filled c)
      rw [List.flatMap_cons, List.length_append, List.length_cons]
      omega

theorem length_le_encodeText (asciiOnly : Bool) (s : String) :
    s.length ≤ (encodeText asciiOnly s).length := by
  have inner := length_le_flatMap (escapeChar_ne_nil asciiOnly) s.toList
  simp only [encodeText, String.length_ofList, List.length_cons, List.length_append,
    String.length_toList] at inner ⊢
  omega

theorem length_le_joined (sep : String) {ss : List String} {s : String} (member : s ∈ ss) :
    s.length ≤ (joined sep ss).length := by
  fun_induction joined sep ss with
  | case1 => exact absurd member List.not_mem_nil
  | case2 t => exact List.mem_singleton.mp member ▸ Nat.le_refl _
  | case3 t u us ih =>
      rw [String.length_append, String.length_append]
      rcases List.mem_cons.mp member with rfl | rest
      · omega
      · have inner := ih rest
        omega

theorem length_le_of_encodeEntries {style : Style} {es : List (Value × Value)} {ss : List String}
    (run : encodeEntries style es = .ok ss) {k : Value} {text : String}
    (member : (k, .text text) ∈ es) : ∃ s ∈ ss, text.length ≤ s.length := by
  induction es generalizing ss with
  | nil => exact absurd member List.not_mem_nil
  | cons e es ih =>
      obtain ⟨key, v⟩ := e
      rw [encodeEntries] at run
      obtain ⟨name, _, run⟩ := bind_eq_ok.mp run
      obtain ⟨shown, value, run⟩ := bind_eq_ok.mp run
      obtain ⟨rest, others, run⟩ := bind_eq_ok.mp run
      obtain rfl := Except.ok.inj run
      rcases List.mem_cons.mp member with same | member
      · obtain ⟨rfl, rfl⟩ := Prod.mk.inj same
        obtain rfl := Except.ok.inj value
        refine ⟨_, List.mem_cons_self, ?_⟩
        have inner := length_le_encodeText style.asciiOnly text
        rw [String.length_append]
        omega
      · obtain ⟨s, hs, bound⟩ := ih others member
        exact ⟨s, List.mem_cons_of_mem _ hs, bound⟩

/-- A document is as long as every text in it. -/
theorem length_le_of_encode {style : Style} {es : List (Value × Value)} {document : String}
    (run : encode style (.dict es) = .ok document) {k : Value} {text : String}
    (member : (k, .text text) ∈ es) : text.length ≤ document.length := by
  rw [encode] at run
  obtain ⟨ss, entries, run⟩ := bind_eq_ok.mp run
  obtain rfl := Except.ok.inj run
  obtain ⟨s, hs, bound⟩ := length_le_of_encodeEntries entries member
  have whole := length_le_joined style.itemSeparator hs
  rw [Value.braced, String.length_append, String.length_append]
  omega

end DocSpace.Json
