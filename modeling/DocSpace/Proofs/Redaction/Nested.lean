import DocSpace.Proofs.Redaction.Records

set_option autoImplicit false

namespace DocSpace.Redaction

/-- How far sensitive names are looked for: in records only, or in lists and tuples as well. -/
inductive Reach where
  | records
  | collections

mutual

/-- A value with nothing under the sensitive names in it. -/
def blankInside (p : Policy) : Reach → Value → Value
  | reach, .dict es => .dict (blank p reach es)
  | .collections, .list vs => .list (blankItems p .collections vs)
  | .collections, .tuple vs => .tuple (blankItems p .collections vs)
  | _, v => v

def blankItems (p : Policy) (reach : Reach) : List Value → List Value
  | [] => []
  | v :: vs => blankInside p reach v :: blankItems p reach vs

def blank (p : Policy) (reach : Reach) : Entries → Entries
  | [] => []
  | (k, v) :: es => (k, if p.hides k then .null else blankInside p reach v) :: blank p reach es

end

variable {p : Policy}

theorem blankInside_dict (reach : Reach) (es : Entries) :
    blankInside p reach (.dict es) = .dict (blank p reach es) := by
  cases reach <;> rfl

theorem blankInside_records {v : Value} (plain : v.isDict = false) :
    blankInside p .records v = v := by
  cases v <;> first | rfl | cases plain

theorem isDict_blankInside (reach : Reach) (v : Value) :
    (blankInside p reach v).isDict = v.isDict := by
  cases reach <;> cases v <;> rfl

theorem asText?_blankInside (reach : Reach) (v : Value) :
    (blankInside p reach v).asText? = v.asText? := by
  cases reach <;> cases v <;> rfl

/-- There is nothing to blank in a text. -/
theorem blankInside_of_asText? {v : Value} {s : String} (text : v.asText? = some s)
    (reach : Reach) : blankInside p reach v = v := by
  cases v <;> cases text <;> cases reach <;> rfl

theorem hideUrl_of_asText? {v : Value} (other : v.asText? = none) (k : Value) :
    hideUrl k v = v := by
  rw [hideUrl, other]

/-- Two values that are no records and differ under sensitive names only show as different as they
are. -/
theorem eq_of_hideUrl_eq {k v v' : Value}
    (same : blankInside p .collections v = blankInside p .collections v')
    (shown : hideUrl k v = hideUrl k v') : v = v' := by
  have texts : v.asText? = v'.asText? := by
    rw [← asText?_blankInside .collections v, same, asText?_blankInside]
  cases read : v.asText? with
  | some s =>
      rwa [blankInside_of_asText? read, blankInside_of_asText? (texts.symm.trans read)] at same
  | none => rwa [hideUrl_of_asText? read, hideUrl_of_asText? (texts.symm.trans read)] at shown

theorem blank_cons_eq_iff {reach : Reach} {k v k' v' : Value} {rest rest' : Entries} :
    blank p reach ((k, v) :: rest) = blank p reach ((k', v') :: rest') ↔
      k = k' ∧ (p.hides k = false → blankInside p reach v = blankInside p reach v') ∧
        blank p reach rest = blank p reach rest' := by
  rw [blank, blank, List.cons.injEq, Prod.mk.injEq, and_assoc]
  refine and_congr_right fun same => ?_
  rw [← same, ite_hides_eq_iff]

/-- The deep pass does not see what is under a sensitive name. -/
theorem shownDeep_blank (p : Policy) (es : Entries) :
    shownDeep p (blank p .records es) = shownDeep p es := by
  induction es using Entries.recordInduction with
  | nil => rfl
  | dict k inner rest ihInner ih =>
      refine shownDeep_cons_eq_iff.mpr ⟨rfl, fun free => ?_, ih⟩
      rw [free, if_neg Bool.false_ne_true, blankInside_dict, shownInside_dict, shownInside_dict,
        ihInner]
  | other k v rest plain ih =>
      refine shownDeep_cons_eq_iff.mpr ⟨rfl, fun free => ?_, ih⟩
      rw [free, if_neg Bool.false_ne_true, blankInside_records plain]

/-- And it shows whatever is not under one: of two records of the same shape it shows how they
differ. -/
theorem blank_eq_of_shownDeep_eq {es es' : Entries}
    (same : blank p .collections es = blank p .collections es')
    (shown : shownDeep p es = shownDeep p es') :
    blank p .records es = blank p .records es' := by
  induction es using Entries.recordInduction generalizing es' with
  | nil =>
      cases es' with
      | nil => rfl
      | cons => cases same
  | dict k inner rest ihInner ih =>
      match es' with
      | [] => cases same
      | (k', v') :: rest' =>
          obtain ⟨rfl, blanks, restSame⟩ := blank_cons_eq_iff.mp same
          obtain ⟨-, values, restShown⟩ := shownDeep_cons_eq_iff.mp shown
          refine blank_cons_eq_iff.mpr ⟨rfl, fun free => ?_, ih restSame restShown⟩
          obtain ⟨inner', rfl, innerShown⟩ := shownInside_eq_dict.mp (values free).symm
          have innerSame : blank p .collections inner = blank p .collections inner' := by
            simpa only [blankInside_dict, Value.dict.injEq] using blanks free
          rw [blankInside_dict, blankInside_dict, ihInner innerSame innerShown.symm]
  | other k v rest plain ih =>
      match es' with
      | [] => cases same
      | (k', v') :: rest' =>
          obtain ⟨rfl, blanks, restSame⟩ := blank_cons_eq_iff.mp same
          obtain ⟨-, values, restShown⟩ := shownDeep_cons_eq_iff.mp shown
          refine blank_cons_eq_iff.mpr ⟨rfl, fun free => ?_, ih restSame restShown⟩
          have plain' : v'.isDict = false := by
            rw [← isDict_blankInside .collections v', ← blanks free, isDict_blankInside, plain]
          have urls : hideUrl k v = hideUrl k v' := by
            simpa only [shownInside_of_not_dict plain, shownInside_of_not_dict plain']
              using values free
          rw [eq_of_hideUrl_eq (blanks free) urls]

/-- Two records that differ under sensitive names only show the same just if none of the names is
in a list or a tuple. -/
theorem redactDeep_eq_iff_blank_eq (p : Policy) {es es' : Entries}
    (keyed : es.areTextKeyed = true) (keyed' : es'.areTextKeyed = true)
    (same : blank p .collections es = blank p .collections es') :
    ∃ shown shown', redactDeep p (.dict es) = .ok shown ∧ redactDeep p (.dict es') = .ok shown' ∧
      (shown = shown' ↔ blank p .records es = blank p .records es') := by
  refine ⟨.dict (shownDeep p es), .dict (shownDeep p es'), redactDeep_eq p keyed,
    redactDeep_eq p keyed', ?_⟩
  rw [Value.dict.injEq]
  constructor
  · intro shown
    exact blank_eq_of_shownDeep_eq same shown
  · intro blanks
    rw [← shownDeep_blank p es, blanks, shownDeep_blank]

/-- A batch of sign-ins: one record holds a token by itself, another in a list, and a third in a
tuple under a sensitive name. -/
def batch (direct listed : String) : Entries :=
  [(.text "user", .dict [(.text "Token", .text direct)]),
    (.text "items", .list [.dict [(.text "token", .text listed)]]),
    (.text "secret", .tuple [.dict [(.text "token", .text direct)]])]

theorem batch_redactDeep_eq : (batch "a" "k").areTextKeyed = true ∧
    (batch "b" "k").areTextKeyed = true ∧
    blank .standard .collections (batch "a" "k") = blank .standard .collections (batch "b" "k") ∧
    blank .standard .records (batch "a" "k") = blank .standard .records (batch "b" "k") ∧
    ∃ shown shown', redactDeep .standard (.dict (batch "a" "k")) = .ok shown ∧
      redactDeep .standard (.dict (batch "b" "k")) = .ok shown' ∧
      (shown = shown' ↔
        blank .standard .records (batch "a" "k") = blank .standard .records (batch "b" "k")) := by
  have keyed : (batch "a" "k").areTextKeyed = true := rfl
  have keyed' : (batch "b" "k").areTextKeyed = true := rfl
  have same : blank .standard .collections (batch "a" "k") =
      blank .standard .collections (batch "b" "k") := rfl
  exact ⟨keyed, keyed', same, rfl, redactDeep_eq_iff_blank_eq .standard keyed keyed' same⟩

/-- Tokens in lists are shown as they are, so records that nothing else tells apart do not show the
same. -/
theorem listed_token_shows :
    let es : Entries := [(.text "items", .list [.dict [(.text "token", .text "a")]])]
    let es' : Entries := [(.text "items", .list [.dict [(.text "token", .text "b")]])]
    es.areTextKeyed = true ∧ es'.areTextKeyed = true ∧
      blank .standard .collections es = blank .standard .collections es' ∧
      redactDeep .standard (.dict es) = .ok (.dict es) ∧
      redactDeep .standard (.dict es') = .ok (.dict es') ∧ es ≠ es' := by
  refine ⟨rfl, rfl, rfl, rfl, rfl, ?_⟩
  simp

end DocSpace.Redaction
