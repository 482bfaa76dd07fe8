import DocSpace.Json.Encode
import DocSpace.Proofs.Number.Decimal
import DocSpace.Proofs.Success
import DocSpace.Proofs.Text.Digit

set_option autoImplicit false

namespace DocSpace.Json

open Number Text

def ArePrinted (cs : List Char) : Prop := ∀ c ∈ cs, 0x20 ≤ c.toNat

instance (cs : List Char) : Decidable (ArePrinted cs) := List.decidableBAll _ cs

section Lists

variable {c : Char} {cs ds : List Char}

theorem arePrinted_cons : ArePrinted (c :: cs) ↔ 0x20 ≤ c.toNat ∧ ArePrinted cs :=
  List.forall_mem_cons

theorem arePrinted_append : ArePrinted (cs ++ ds) ↔ ArePrinted cs ∧ ArePrinted ds :=
  List.forall_mem_append

theorem ArePrinted.of_subset (printed : ArePrinted ds) (inside : cs ⊆ ds) : ArePrinted cs :=
  fun c member => printed c (inside member)

theorem arePrinted_ite {p : Prop} [Decidable p] (first : p → ArePrinted cs)
    (second : ¬p → ArePrinted ds) : ArePrinted (if p then cs else ds) := by
  split
  · next holds => exact first holds
  · next fails => exact second fails

end Lists

section Numbers

theorem arePrinted_of_isDigit {cs : List Char} (digits : ∀ c ∈ cs, c.isDigit = true) :
    ArePrinted cs := by
  intro c member
  have digit := digits c member
  simp only [Char.isDigit, Bool.and_eq_true, decide_eq_true_eq] at digit
  have low : 48 ≤ c.toNat := UInt32.le_iff_toNat_le.mp digit.1
  omega

theorem arePrinted_natDigits (n : Nat) : ArePrinted (natDigits n) :=
  arePrinted_of_isDigit fun _ member => isDigit_of_mem_natDigits member

theorem arePrinted_zeros (n : Nat) : ArePrinted (zeros n) := by
  intro c member
  rw [List.eq_of_mem_replicate member]
  decide

theorem arePrinted_exponentText (e : Int) : ArePrinted (exponentText e) := by
  have sign : 0x20 ≤ (if e < 0 then '-' else '+').toNat := by split <;> decide
  rw [exponentText, List.cons_append, arePrinted_cons, arePrinted_append]
  exact ⟨sign, arePrinted_zeros _, arePrinted_natDigits _⟩

theorem arePrinted_decimal (d : Decimal) : ArePrinted d.chars := by
  have digits := arePrinted_natDigits d.digits
  have front (n : Nat) : ArePrinted ((natDigits d.digits).take n) :=
    digits.of_subset (List.take_subset n _)
  have back (n : Nat) : ArePrinted ((natDigits d.digits).drop n) :=
    digits.of_subset (List.drop_subset n _)
  unfold Decimal.chars
  refine arePrinted_ite (fun _ => arePrinted_ite (fun _ => ?_) fun _ => ?_) fun _ => ?_
  · simp only [List.cons_append, arePrinted_cons, arePrinted_append]
    exact ⟨by decide, by decide, arePrinted_zeros _, digits⟩
  · simp only [arePrinted_cons, arePrinted_append]
    exact ⟨⟨front _, arePrinted_zeros _⟩, by decide,
      arePrinted_ite (fun _ => by decide) fun _ => back _⟩
  · simp only [arePrinted_cons, arePrinted_append]
    refine ⟨⟨front _, arePrinted_ite (fun _ => by decide) fun _ => ?_⟩, by decide,
      arePrinted_exponentText _⟩
    exact arePrinted_cons.mpr ⟨by decide, back _⟩

theorem arePrinted_intText (i : Int) : ArePrinted (intText i).toList := by
  rw [intText, String.toList_ofList, arePrinted_append]
  exact ⟨arePrinted_ite (fun _ => by decide) fun _ => by decide, arePrinted_natDigits _⟩

theorem arePrinted_doubleText (d : Double) : ArePrinted (doubleText .document d).toList := by
  cases d with
  | notANumber => decide
  | infinite negative => cases negative <;> decide
  | finite negative m e =>
      rw [doubleText, String.toList_ofList, arePrinted_append]
      exact ⟨arePrinted_ite (fun _ => by decide) fun _ => by decide,
        arePrinted_ite (fun _ => by decide) fun _ => arePrinted_decimal _⟩

end Numbers

section Texts

theorem arePrinted_unitEscape (n : Nat) : ArePrinted (unitEscape n) := by
  have digits : ∀ d < 16, 0x20 ≤ (hexDigit d).toNat := by decide
  rw [unitEscape, arePrinted_cons, arePrinted_cons]
  refine ⟨by decide, by decide, fun c member => ?_⟩
  obtain ⟨d, small, rfl⟩ := digit_of_mem_hexDigits member
  exact digits d small

theorem arePrinted_escapeChar (asciiOnly : Bool) (c : Char) :
    ArePrinted (escapeChar asciiOnly c) := by
  unfold escapeChar
  split
  · next mark =>
      rcases mark with rfl | rfl <;> decide
  · iterate 5
      refine arePrinted_ite (fun _ => by decide) fun _ => ?_
    refine arePrinted_ite (fun _ => ?_) fun plain => ?_
    · intro d member
      obtain ⟨n, _, unit⟩ := List.mem_flatMap.mp member
      exact arePrinted_unitEscape n d unit
    · rw [arePrinted_cons]
      exact ⟨by omega, nofun⟩

theorem arePrinted_encodeText (asciiOnly : Bool) (s : String) :
    ArePrinted (encodeText asciiOnly s).toList := by
  rw [encodeText, String.toList_ofList, List.cons_append, arePrinted_cons, arePrinted_append]
  refine ⟨by decide, fun d member => ?_, by decide⟩
  obtain ⟨c, _, own⟩ := List.mem_flatMap.mp member
  exact arePrinted_escapeChar asciiOnly c d own

theorem arePrinted_joined {sep : String} (between : ArePrinted sep.toList) {ss : List String}
    (each : ∀ s ∈ ss, ArePrinted s.toList) : ArePrinted (joined sep ss).toList := by
  fun_induction joined sep ss with
  | case1 => exact nofun
  | case2 s => exact each s List.mem_cons_self
  | case3 s t ts ih =>
      obtain ⟨own, others⟩ := List.forall_mem_cons.mp each
      simp only [String.toList_append, arePrinted_append]
      exact ⟨⟨own, between⟩, ih others⟩

end Texts

structure Style.IsPrinting (style : Style) : Prop where
  items : ArePrinted style.itemSeparator.toList
  keys : ArePrinted style.keySeparator.toList

section Values

variable {style : Style}

theorem arePrinted_encodeDouble {d : Double} {s : String}
    (run : encodeDouble style d = .ok s) : ArePrinted s.toList := by
  unfold encodeDouble at run
  split at run
  · exact Except.ok.inj run ▸ arePrinted_doubleText _
  all_goals
    split at run
    · exact Except.ok.inj run ▸ arePrinted_doubleText _
    · cases run

theorem arePrinted_encodeOther {v : Value} {s : String} (run : encodeOther style v = .ok s) :
    ArePrinted s.toList := by
  unfold encodeOther at run
  split at run
  · exact Except.ok.inj run ▸ arePrinted_encodeText _ _
  · cases run

mutual

/-- Nothing that is written has a control character. -/
theorem arePrinted_encode (printing : style.IsPrinting) :
    ∀ (v : Value) {s : String}, encode style v = .ok s → ArePrinted s.toList
  | .null, _, run => by
      rw [← Except.ok.inj run]
      decide
  | .bool b, _, run => by
      rw [← Except.ok.inj run]
      cases b <;> decide
  | .int i, _, run | .intMember _ _ i, _, run => Except.ok.inj run ▸ arePrinted_intText i
  | .double _, _, run => arePrinted_encodeDouble run
  | .text t, _, run | .textMember _ _ t, _, run =>
      Except.ok.inj run ▸ arePrinted_encodeText style.asciiOnly t
  | .list vs, _, run | .tuple vs, _, run => by
      obtain ⟨ss, items, run⟩ := bind_eq_ok.mp run
      rw [← Except.ok.inj run]
      simp only [String.toList_append, arePrinted_append]
      have each := arePrinted_encodeItems printing vs items
      exact ⟨⟨by decide, arePrinted_joined printing.items each⟩, by decide⟩
  | .dict es, _, run => by
      obtain ⟨ss, members, run⟩ := bind_eq_ok.mp run
      rw [← Except.ok.inj run]
      simp only [Value.braced, String.toList_append, arePrinted_append]
      have each := arePrinted_encodeEntries printing es members
      exact ⟨⟨by decide, arePrinted_joined printing.items each⟩, by decide⟩
  -- What JSON has no form for is shown as a text, and so is escaped.
  | .bytes _, _, run | .day _, _, run | .moment _, _, run | .member _ _ _, _, run
  | .record _ _, _, run | .type _, _, run => arePrinted_encodeOther run

theorem arePrinted_encodeItems (printing : style.IsPrinting) :
    ∀ (vs : List Value) {ss : List String}, encodeItems style vs = .ok ss →
      ∀ s ∈ ss, ArePrinted s.toList
  | [], _, run => Except.ok.inj run ▸ nofun
  | v :: vs, _, run => by
      obtain ⟨s, own, run⟩ := bind_eq_ok.mp run
      obtain ⟨ss, others, run⟩ := bind_eq_ok.mp run
      rw [← Except.ok.inj run, List.forall_mem_cons]
      exact ⟨arePrinted_encode printing v own, arePrinted_encodeItems printing vs others⟩

theorem arePrinted_encodeEntries (printing : style.IsPrinting) :
    ∀ (es : List (Value × Value)) {ss : List String}, encodeEntries style es = .ok ss →
      ∀ s ∈ ss, ArePrinted s.toList
  | [], _, run => Except.ok.inj run ▸ nofun
  | (k, v) :: es, _, run => by
      obtain ⟨name, _, run⟩ := bind_eq_ok.mp run
      obtain ⟨s, own, run⟩ := bind_eq_ok.mp run
      obtain ⟨ss, others, run⟩ := bind_eq_ok.mp run
      rw [← Except.ok.inj run, List.forall_mem_cons]
      simp only [String.toList_append, arePrinted_append]
      have shown := arePrinted_encodeText style.asciiOnly name
      exact ⟨⟨⟨shown, printing.keys⟩, arePrinted_encode printing v own⟩,
        arePrinted_encodeEntries printing es others⟩

end

end Values

end DocSpace.Json
