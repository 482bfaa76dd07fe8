import DocSpace.Proofs.Success
import DocSpace.Redaction.Fields
import DocSpace.Value.Entries

set_option autoImplicit false

namespace DocSpace

def Value.isDict : Value → Bool
  | dict _ => true
  | _ => false

theorem Value.eq_dict_or_isDict_eq_false (v : Value) :
    (∃ es, v = .dict es) ∨ v.isDict = false := by
  cases v <;> first | exact .inr rfl | exact .inl ⟨_, rfl⟩

/-- Texts have a lower case, and so have bytes. -/
def Value.hasLowerCase : Value → Bool
  | text _ | textMember _ _ _ | bytes _ => true
  | _ => false

theorem Value.hasLowerCase_of_asText? {k : Value} (text : k.asText?.isSome = true) :
    k.hasLowerCase = true := by
  cases k <;> first | rfl | cases text

namespace Entries

/-- A record is followed into the records directly under its keys. -/
@[elab_as_elim]
theorem recordInduction {motive : Entries → Prop} (nil : motive [])
    (dict : ∀ k inner rest, motive inner → motive rest → motive ((k, .dict inner) :: rest))
    (other : ∀ k v rest, v.isDict = false → motive rest → motive ((k, v) :: rest)) :
    ∀ es, motive es
  | [] => nil
  | (k, v) :: rest => by
      have others := recordInduction nil dict other rest
      match v with
      | .dict inner => exact dict k inner rest (recordInduction nil dict other inner) others
      | .null | .bool _ | .int _ | .double _ | .text _ | .bytes _ | .day _ | .moment _ | .list _
      | .tuple _ | .member _ _ _ | .textMember _ _ _ | .intMember _ _ _ | .record _ _ | .type _ =>
          exact other k _ rest rfl others

mutual

def isTextKeyed : Value → Bool
  | .dict es => areTextKeyed es
  | _ => true

def areTextKeyed : Entries → Bool
  | [] => true
  | (k, v) :: rest => k.asText?.isSome && isTextKeyed v && areTextKeyed rest

end

theorem isTextKeyed_of_not_dict {v : Value} (plain : v.isDict = false) :
    isTextKeyed v = true := by
  cases v <;> first | rfl | cases plain

theorem areTextKeyed_cons {k v : Value} {rest : Entries} :
    areTextKeyed ((k, v) :: rest) = true ↔
      k.asText?.isSome = true ∧ isTextKeyed v = true ∧ areTextKeyed rest = true := by
  rw [areTextKeyed, Bool.and_eq_true, Bool.and_eq_true, and_assoc]

theorem isSome_of_mem {es : Entries} (keyed : areTextKeyed es = true) {e : Value × Value}
    (member : e ∈ es) : e.1.asText?.isSome = true := by
  induction es with
  | nil => cases member
  | cons first rest ih =>
      obtain ⟨text, _, others⟩ := areTextKeyed_cons.mp keyed
      rcases List.mem_cons.mp member with rfl | later
      · exact text
      · exact ih others later

def keys (es : Entries) : List Value := es.map (·.1)

/-- The record at a place, which says the positions of the keys that lead there. No key on the way
may be barred. -/
def recordAt? (bars : Value → Bool) : List Nat → Entries → Option Entries
  | [], es => some es
  | i :: place, es =>
    match es[i]? with
    | some (k, .dict inner) => if bars k then none else recordAt? bars place inner
    | _ => none

theorem recordAt?_cons_eq_some {bars : Value → Bool} {i : Nat} {place : List Nat}
    {es found : Entries} : recordAt? bars (i :: place) es = some found ↔
      ∃ k inner, es[i]? = some (k, .dict inner) ∧ bars k = false ∧
        recordAt? bars place inner = some found := by
  constructor
  · intro run
    unfold recordAt? at run
    split at run
    · next k inner entry =>
        split at run
        · cases run
        · next free => exact ⟨k, inner, entry, Bool.eq_false_iff.mpr free, run⟩
    · cases run
  · rintro ⟨k, inner, entry, free, run⟩
    rw [recordAt?, entry]
    simpa [free] using run

end Entries

namespace Redaction

variable {p : Policy}

def Policy.hides (p : Policy) (k : Value) : Bool := k.asText?.any p.covers

theorem coversKey_of_hasLowerCase {k : Value} (lower : k.hasLowerCase = true) :
    p.coversKey k = .ok (p.hides k) := by
  cases k <;> first | rfl | cases lower

theorem coversKey_eq {k : Value} (text : k.asText?.isSome = true) :
    p.coversKey k = .ok (p.hides k) :=
  coversKey_of_hasLowerCase (Value.hasLowerCase_of_asText? text)

mutual

def shownInside (p : Policy) (k : Value) : Value → Value
  | .dict es => .dict (shownDeep p es)
  | v => hideUrl k v

def shownDeep (p : Policy) : Entries → Entries
  | [] => []
  | (k, v) :: es => (k, if p.hides k then hiddenValue else shownInside p k v) :: shownDeep p es

end

def shownFlat (p : Policy) (es : Entries) : Entries :=
  es.map fun e => (e.1, if p.hides e.1 then hiddenValue else e.2)

theorem shownInside_of_not_dict {v : Value} (plain : v.isDict = false) (k : Value) :
    shownInside p k v = hideUrl k v := by
  cases v <;> first | rfl | cases plain

theorem hideInside_of_not_dict {v : Value} (plain : v.isDict = false) (k : Value) :
    hideInside p k v = .ok (hideUrl k v) := by
  cases v <;> first | rfl | cases plain

theorem shownDeep_eq_map (es : Entries) :
    shownDeep p es =
      es.map fun e => (e.1, if p.hides e.1 then hiddenValue else shownInside p e.1 e.2) := by
  induction es with
  | nil => rfl
  | cons e es ih => rw [shownDeep, ih, List.map_cons]

theorem shownInside_dict (k : Value) (es : Entries) :
    shownInside p k (.dict es) = .dict (shownDeep p es) := rfl

theorem isDict_hideUrl {v : Value} (plain : v.isDict = false) (k : Value) :
    (hideUrl k v).isDict = false := by
  unfold hideUrl
  split
  · split
    · rfl
    · exact plain
  · exact plain

theorem shownInside_eq_dict {k v : Value} {shown : Entries} :
    shownInside p k v = .dict shown ↔ ∃ inner, v = .dict inner ∧ shownDeep p inner = shown := by
  rcases v.eq_dict_or_isDict_eq_false with ⟨inner, rfl⟩ | plain
  · simp only [shownInside_dict, Value.dict.injEq, exists_eq_left']
  · refine iff_of_false (fun same => ?_) ?_
    · have shownPlain := isDict_hideUrl plain k
      rw [← shownInside_of_not_dict plain (p := p), same] at shownPlain
      cases shownPlain
    · rintro ⟨inner, rfl, _⟩
      cases plain

theorem ite_hides_eq_iff {k w v v' : Value} :
    (if p.hides k then w else v) = (if p.hides k then w else v') ↔
      (p.hides k = false → v = v') := by
  cases p.hides k <;> simp

theorem shownDeep_cons_eq_iff {k v k' v' : Value} {rest rest' : Entries} :
    shownDeep p ((k, v) :: rest) = shownDeep p ((k', v') :: rest') ↔
      k = k' ∧ (p.hides k = false → shownInside p k v = shownInside p k v') ∧
        shownDeep p rest = shownDeep p rest' := by
  rw [shownDeep, shownDeep, List.cons.injEq, Prod.mk.injEq, and_assoc]
  refine and_congr_right fun same => ?_
  rw [← same, ite_hides_eq_iff]

theorem getElem?_shownDeep (es : Entries) (i : Nat) :
    (shownDeep p es)[i]? =
      es[i]?.map fun e => (e.1, if p.hides e.1 then hiddenValue else shownInside p e.1 e.2) := by
  rw [shownDeep_eq_map, List.getElem?_map]

theorem getElem?_shownFlat (es : Entries) (i : Nat) :
    (shownFlat p es)[i]? =
      es[i]?.map fun e => (e.1, if p.hides e.1 then hiddenValue else e.2) := by
  rw [shownFlat, List.getElem?_map]

theorem getElem?_shownDeep_eq_dict {es shown : Entries} {i : Nat} {k : Value} :
    (shownDeep p es)[i]? = some (k, .dict shown) ↔
      p.hides k = false ∧ ∃ inner, es[i]? = some (k, .dict inner) ∧ shownDeep p inner = shown := by
  rw [getElem?_shownDeep, Option.map_eq_some_iff]
  constructor
  · rintro ⟨⟨k', v⟩, entry, same⟩
    obtain ⟨rfl, value⟩ := Prod.mk.inj same
    cases covered : p.hides k' with
    | true =>
        rw [if_pos covered] at value
        cases value
    | false =>
        rw [covered] at value
        obtain ⟨inner, rfl, run⟩ := shownInside_eq_dict.mp value
        exact ⟨rfl, inner, entry, run⟩
  · rintro ⟨free, inner, entry, rfl⟩
    exact ⟨_, entry, by simp only [free, Bool.false_eq_true, ↓reduceIte, shownInside_dict]⟩

theorem getElem?_shownFlat_eq_dict {es inner : Entries} {i : Nat} {k : Value}
    (entry : (shownFlat p es)[i]? = some (k, .dict inner)) : es[i]? = some (k, .dict inner) := by
  rw [getElem?_shownFlat] at entry
  obtain ⟨⟨k', v⟩, given, same⟩ := Option.map_eq_some_iff.mp entry
  obtain ⟨rfl, value⟩ := Prod.mk.inj same
  cases covered : p.hides k' with
  | true =>
      rw [if_pos covered] at value
      cases value
  | false =>
      rw [covered] at value
      obtain rfl : v = .dict inner := value
      exact given

@[simp] theorem keys_shownDeep (p : Policy) (es : Entries) : (shownDeep p es).keys = es.keys := by
  rw [shownDeep_eq_map, Entries.keys, List.map_map]
  rfl

@[simp] theorem keys_shownFlat (p : Policy) (es : Entries) : (shownFlat p es).keys = es.keys := by
  rw [shownFlat, Entries.keys, List.map_map]
  rfl

theorem hideDeep_cons_eq {k v : Value} {es : Entries} (lower : k.hasLowerCase = true) :
    hideDeep p ((k, v) :: es) =
      (if p.hides k then .ok hiddenValue else hideInside p k v).bind fun w =>
        (hideDeep p es).map fun hs => (k, w) :: hs := by
  rw [hideDeep, coversKey_of_hasLowerCase lower]
  cases p.hides k with
  | true => cases hideDeep p es <;> rfl
  | false => cases hideInside p k v <;> cases hideDeep p es <;> rfl

theorem hideDeep_cons {k v w : Value} {es hs : Entries} (text : k.asText?.isSome = true)
    (inside : hideInside p k v = .ok w) (run : hideDeep p es = .ok hs) :
    hideDeep p ((k, v) :: es) = .ok ((k, if p.hides k then hiddenValue else w) :: hs) := by
  rw [hideDeep_cons_eq (Value.hasLowerCase_of_asText? text), run, inside]
  cases p.hides k <;> rfl

theorem hideDeep_eq (p : Policy) {es : Entries} (keyed : es.areTextKeyed = true) :
    hideDeep p es = .ok (shownDeep p es) := by
  induction es using Entries.recordInduction with
  | nil => rfl
  | dict k inner rest ihInner ih =>
      obtain ⟨text, own, others⟩ := Entries.areTextKeyed_cons.mp keyed
      have inside : hideInside p k (.dict inner) = .ok (shownInside p k (.dict inner)) := by
        rw [hideInside, ihInner own]
        rfl
      exact hideDeep_cons text inside (ih others)
  | other k v rest plain ih =>
      obtain ⟨text, _, others⟩ := Entries.areTextKeyed_cons.mp keyed
      rw [shownDeep, shownInside_of_not_dict plain]
      exact hideDeep_cons text (hideInside_of_not_dict plain k) (ih others)

theorem redactDeep_eq (p : Policy) {es : Entries} (keyed : es.areTextKeyed = true) :
    redactDeep p (.dict es) = .ok (.dict (shownDeep p es)) := by
  have run : redactDeep p (.dict es) = (hideDeep p es).map Value.dict := rfl
  rw [run, hideDeep_eq p keyed]
  rfl

theorem redact_eq (p : Policy) {es : Entries} (keyed : es.areTextKeyed = true) :
    redact p (.dict es) = .ok (.dict (shownFlat p es)) := by
  have each : hideFlat p es = .ok (shownFlat p es) := by
    refine mapM_eq_ok_map fun e member => ?_
    obtain ⟨k, v⟩ := e
    have key : p.coversKey k = .ok (p.hides k) := coversKey_eq (Entries.isSome_of_mem keyed member)
    show (do return (k, if ← p.coversKey k then hiddenValue else v)) = _
    rw [key]
    rfl
  have run : redact p (.dict es) = (hideFlat p es).map Value.dict := rfl
  rw [run, each]
  rfl

end Redaction

end DocSpace
