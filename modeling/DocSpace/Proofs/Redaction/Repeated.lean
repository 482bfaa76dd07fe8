import DocSpace.Proofs.Redaction.Exposed
import DocSpace.Proofs.Redaction.Records

set_option autoImplicit false

namespace DocSpace.Redaction

section Scan

theorem marks_not_mem_markerForms :
    ∀ form ∈ markerForms, form.contains '?' = false ∧ form.contains '&' = false := by
  decide

/-- The letters of a marker are looked for in what is shown as in what was there: none of them can
start a marker of its own, so the scan has not come to a key yet. -/
theorem startsWithForms_hideFrom {forms : List (List Char)}
    (plain : ∀ form ∈ forms, form.contains '?' = false ∧ form.contains '&' = false)
    (cs : List Char) :
    startsWithForms forms (hideFrom .outside cs) = startsWithForms forms cs := by
  induction forms generalizing cs with
  | nil => simp only [startsWithForms]
  | cons form forms ih =>
      rw [List.forall_mem_cons] at plain
      cases cs with
      | nil => rfl
      | cons c cs =>
          rw [hideFrom, startsWithForms, startsWithForms]
          cases letter : form.contains c with
          | false => rfl
          | true =>
              have question : c ≠ '?' := by
                rintro rfl
                exact absurd letter (by rw [plain.1.1]; decide)
              have ampersand : c ≠ '&' := by
                rintro rfl
                exact absurd letter (by rw [plain.1.2]; decide)
              have outside : isMarker (c :: cs) = false := by
                simp [isMarker, question, ampersand]
              rw [outside]
              simpa using ih plain.2 cs

/-- Inside a marker the scan shows the rest of it, and then goes on in the key. -/
theorem hideFrom_marker_eq {n : Nat} {cs : List Char} (fits : n < cs.length) :
    hideFrom (.marker n) cs =
      cs.take (n + 1) ++ hidden.toList ++ hideFrom .key (cs.drop (n + 1)) := by
  have size : (cs.take (n + 1)).length = n + 1 := List.length_take_of_le fits
  rw [← hideFrom_marker_append size, List.take_append_drop]

/-- A character starts a marker in what is shown just if it started one before. -/
theorem isMarker_hideFrom (c : Char) (cs : List Char) :
    isMarker (c :: hideFrom (if isMarker (c :: cs) then .marker 6 else .outside) cs) =
      isMarker (c :: cs) := by
  cases found : isMarker (c :: cs) with
  | false =>
      have same := startsWithForms_hideFrom marks_not_mem_markerForms cs
      show isMarker (c :: hideFrom .outside cs) = false
      rw [isMarker, same]
      exact found
  | true =>
      obtain ⟨opens, letters⟩ := (Bool.and_eq_true _ _).mp found
      have enough : 6 < cs.length := length_le_of_startsWithForms letters
      have size : markerForms.length ≤ (cs.take 7).length :=
        Nat.le_of_eq (List.length_take_of_le enough).symm
      have shown : startsWithForms markerForms (hideFrom (.marker 6) cs) = true := by
        rw [hideFrom_marker_eq enough, List.append_assoc, startsWithForms_append _ size,
          ← startsWithForms_append _ size (cs.drop 7), List.take_append_drop]
        exact letters
      exact (Bool.and_eq_true _ _).mpr ⟨opens, shown⟩

theorem hideFrom_hideFrom (phase : Phase) (cs : List Char) :
    hideFrom phase (hideFrom phase cs) = hideFrom phase cs := by
  induction cs generalizing phase with
  | nil => cases phase <;> rfl
  | cons c cs ih =>
      have free : '&' ∉ hidden.toList := by decide
      cases phase with
      | outside => rw [hideFrom, hideFrom, isMarker_hideFrom, ih]
      | marker n =>
          cases n with
          | zero => rw [hideFrom, List.cons_append, hideFrom, hideFrom_key_append free, ih]; rfl
          | succ n => rw [hideFrom, hideFrom, ih]
      | key =>
          by_cases ampersand : c = '&'
          · rw [hideFrom, if_pos ampersand, hideFrom, if_pos ampersand, isMarker_hideFrom, ih]
          · rw [hideFrom, if_neg ampersand, ih]

theorem hideKey_hideKey (s : String) : hideKey (hideKey s) = hideKey s := by
  rw [hideKey, hideKey, String.toList_ofList, hideFrom_hideFrom]

end Scan

section Passes

variable {p : Policy}

theorem hideUrl_hideUrl (k v : Value) : hideUrl k (hideUrl k v) = hideUrl k v := by
  unfold hideUrl
  cases read : v.asText? with
  | none => simp only [read]
  | some s =>
      by_cases url : k.isText "url" = true
      · simp only [url, ↓reduceIte, Value.asText?, hideKey_hideKey]
      · simp only [url, Bool.false_eq_true, ↓reduceIte, read]

theorem shownDeep_shownDeep (p : Policy) (es : Entries) :
    shownDeep p (shownDeep p es) = shownDeep p es := by
  induction es using Entries.recordInduction with
  | nil => rfl
  | dict k inner rest ihInner ih =>
      refine shownDeep_cons_eq_iff.mpr ⟨rfl, fun free => ?_, ih⟩
      rw [free, if_neg Bool.false_ne_true, shownInside_dict, shownInside_dict, ihInner]
  | other k v rest plain ih =>
      refine shownDeep_cons_eq_iff.mpr ⟨rfl, fun free => ?_, ih⟩
      rw [free, if_neg Bool.false_ne_true, shownInside_of_not_dict plain,
        shownInside_of_not_dict (isDict_hideUrl plain k), hideUrl_hideUrl]

theorem shownFlat_shownDeep (p : Policy) (es : Entries) :
    shownFlat p (shownDeep p es) = shownDeep p es := by
  rw [shownDeep_eq_map, shownFlat, List.map_map]
  refine List.map_congr_left fun e _ => ?_
  rw [Function.comp_apply]
  cases p.hides e.1 <;> rfl

theorem shownDeep_shownFlat (p : Policy) (es : Entries) :
    shownDeep p (shownFlat p es) = shownDeep p es := by
  rw [shownDeep_eq_map, shownDeep_eq_map, shownFlat, List.map_map]
  refine List.map_congr_left fun e _ => ?_
  rw [Function.comp_apply]
  cases p.hides e.1 <;> rfl

theorem isTextKeyed_ite {v : Value} (keyed : Entries.isTextKeyed v = true) (covered : Bool) :
    Entries.isTextKeyed (if covered then hiddenValue else v) = true := by
  cases covered with
  | true => rfl
  | false => exact keyed

theorem areTextKeyed_shownDeep {es : Entries} (keyed : es.areTextKeyed = true) :
    (shownDeep p es).areTextKeyed = true := by
  induction es using Entries.recordInduction with
  | nil => rfl
  | dict k inner rest ihInner ih =>
      obtain ⟨text, own, others⟩ := Entries.areTextKeyed_cons.mp keyed
      have inside : Entries.isTextKeyed (shownInside p k (.dict inner)) = true := ihInner own
      exact Entries.areTextKeyed_cons.mpr ⟨text, isTextKeyed_ite inside _, ih others⟩
  | other k v rest plain ih =>
      obtain ⟨text, _, others⟩ := Entries.areTextKeyed_cons.mp keyed
      have inside : Entries.isTextKeyed (shownInside p k v) = true := by
        rw [shownInside_of_not_dict plain]
        exact Entries.isTextKeyed_of_not_dict (isDict_hideUrl plain k)
      exact Entries.areTextKeyed_cons.mpr ⟨text, isTextKeyed_ite inside _, ih others⟩

theorem areTextKeyed_shownFlat {es : Entries} (keyed : es.areTextKeyed = true) :
    (shownFlat p es).areTextKeyed = true := by
  induction es with
  | nil => rfl
  | cons e es ih =>
      obtain ⟨text, own, others⟩ := Entries.areTextKeyed_cons.mp keyed
      exact Entries.areTextKeyed_cons.mpr ⟨text, isTextKeyed_ite own _, ih others⟩

end Passes

section Order

open Entries

variable {p : Policy}

def KeepsKeys (given shown : Entries) : Prop :=
  ∀ place there, recordAt? (fun _ => false) place shown = some there →
    ∃ before, recordAt? (fun _ => false) place given = some before ∧ there.keys = before.keys

theorem keepsKeys_shownDeep (p : Policy) (es : Entries) : KeepsKeys es (shownDeep p es) := by
  intro place
  induction place generalizing es with
  | nil =>
      rintro there ⟨⟩
      exact ⟨es, rfl, keys_shownDeep p es⟩
  | cons i place ih =>
      intro there found
      obtain ⟨k, shown, entry, free, found⟩ := recordAt?_cons_eq_some.mp found
      obtain ⟨_, inner, given, rfl⟩ := getElem?_shownDeep_eq_dict.mp entry
      obtain ⟨before, reached, keys⟩ := ih inner there found
      exact ⟨before, recordAt?_cons_eq_some.mpr ⟨k, inner, given, free, reached⟩, keys⟩

theorem keepsKeys_shownFlat (p : Policy) (es : Entries) : KeepsKeys es (shownFlat p es) := by
  intro place there found
  cases place with
  | nil =>
      obtain rfl := Option.some.inj found
      exact ⟨es, rfl, keys_shownFlat p es⟩
  | cons i place =>
      obtain ⟨k, inner, entry, free, found⟩ := recordAt?_cons_eq_some.mp found
      have given := getElem?_shownFlat_eq_dict entry
      exact ⟨there, recordAt?_cons_eq_some.mpr ⟨k, inner, given, free, found⟩, rfl⟩

/-- Texts and records show the same when they are hidden once more. Of the two passes the deep one
has the last word, and both leave the keys of every record in their order. -/
theorem hiding_absorbs (p : Policy) {es : Entries} (keyed : es.areTextKeyed = true) :
    (∀ s, hideKey (hideKey s) = hideKey s) ∧
      ∃ flat deep : Entries, redact p (.dict es) = .ok (.dict flat) ∧
        redactDeep p (.dict es) = .ok (.dict deep) ∧
        redactDeep p (.dict deep) = .ok (.dict deep) ∧
        redact p (.dict deep) = .ok (.dict deep) ∧
        redactDeep p (.dict flat) = .ok (.dict deep) ∧
        KeepsKeys es flat ∧ KeepsKeys es deep := by
  have deepKeyed : (shownDeep p es).areTextKeyed = true := areTextKeyed_shownDeep keyed
  have flatKeyed : (shownFlat p es).areTextKeyed = true := areTextKeyed_shownFlat keyed
  refine ⟨hideKey_hideKey, shownFlat p es, shownDeep p es, redact_eq p keyed,
    redactDeep_eq p keyed, ?_, ?_, ?_, keepsKeys_shownFlat p es, keepsKeys_shownDeep p es⟩
  · rw [redactDeep_eq p deepKeyed, shownDeep_shownDeep]
  · rw [redact_eq p deepKeyed, shownFlat_shownDeep]
  · rw [redactDeep_eq p flatKeyed, shownDeep_shownFlat]

def loginEvent : Entries :=
  [(.text "Password", .dict [(.text "url", .text "u")]), (.text "url", .text "https://h?apiKey=k"),
    (.text "inner", .dict [(.text "token", .int 7), (.text "url", .text "?apiKey=k&take=1")]),
    (.text "items", .list [.dict [(.text "secret", .null)]])]

theorem loginEvent_hiding_absorbs : loginEvent.areTextKeyed = true ∧
    redactDeep .standard (.dict loginEvent) = .ok (.dict
      [(.text "Password", hiddenValue), (.text "url", .text "https://h?apiKey=[REDACTED]"),
        (.text "inner", .dict [(.text "token", hiddenValue),
          (.text "url", .text "?apiKey=[REDACTED]&take=1")]),
        (.text "items", .list [.dict [(.text "secret", .null)]])]) ∧
    (∀ s, hideKey (hideKey s) = hideKey s) ∧
      ∃ flat deep : Entries, redact .standard (.dict loginEvent) = .ok (.dict flat) ∧
        redactDeep .standard (.dict loginEvent) = .ok (.dict deep) ∧
        redactDeep .standard (.dict deep) = .ok (.dict deep) ∧
        redact .standard (.dict deep) = .ok (.dict deep) ∧
        redactDeep .standard (.dict flat) = .ok (.dict deep) ∧
        KeepsKeys loginEvent flat ∧ KeepsKeys loginEvent deep := by
  have keyed : loginEvent.areTextKeyed = true := by decide
  exact ⟨keyed, rfl, hiding_absorbs .standard keyed⟩

end Order

end DocSpace.Redaction
