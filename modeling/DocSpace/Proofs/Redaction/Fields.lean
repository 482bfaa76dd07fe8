import DocSpace.Proofs.Redaction.Records
import DocSpace.Proofs.Value.StringKeyed

set_option autoImplicit false

namespace DocSpace.Redaction

open Value

variable {p : Policy} {es : Entries}

theorem entriesStringKeyed_cons {k v : Value} : entriesStringKeyed ((k, v) :: es) = true ↔
    k.asText?.isSome = true ∧ v.isStringKeyed = true ∧ entriesStringKeyed es = true := by
  rw [entriesStringKeyed, Bool.and_eq_true, Bool.and_eq_true, and_assoc]

/-- A pass looks at the keys of some of the dictionaries only. -/
theorem areTextKeyed_of_entriesStringKeyed (keyed : entriesStringKeyed es = true) :
    es.areTextKeyed = true := by
  induction es using Entries.recordInduction with
  | nil => rfl
  | dict k inner rest ihInner ih =>
      obtain ⟨text, own, others⟩ := entriesStringKeyed_cons.mp keyed
      exact Entries.areTextKeyed_cons.mpr ⟨text, ihInner own, ih others⟩
  | other k v rest plain ih =>
      obtain ⟨text, _, others⟩ := entriesStringKeyed_cons.mp keyed
      exact Entries.areTextKeyed_cons.mpr
        ⟨text, Entries.isTextKeyed_of_not_dict plain, ih others⟩

theorem isStringKeyed_hideUrl (k : Value) {v : Value} (keyed : v.isStringKeyed = true) :
    (hideUrl k v).isStringKeyed = true := by
  rw [hideUrl]
  split
  · split
    · rfl
    · exact keyed
  · exact keyed

theorem isStringKeyed_ite {v : Value} (keyed : v.isStringKeyed = true) (covered : Bool) :
    (if covered then hiddenValue else v).isStringKeyed = true := by
  cases covered with
  | true => rfl
  | false => exact keyed

theorem entriesStringKeyed_shownDeep (keyed : entriesStringKeyed es = true) :
    entriesStringKeyed (shownDeep p es) = true := by
  induction es using Entries.recordInduction with
  | nil => rfl
  | dict k inner rest ihInner ih =>
      obtain ⟨text, own, others⟩ := entriesStringKeyed_cons.mp keyed
      have inside : (shownInside p k (.dict inner)).isStringKeyed = true := ihInner own
      exact entriesStringKeyed_cons.mpr ⟨text, isStringKeyed_ite inside _, ih others⟩
  | other k v rest plain ih =>
      obtain ⟨text, own, others⟩ := entriesStringKeyed_cons.mp keyed
      have inside : (shownInside p k v).isStringKeyed = true := by
        rw [shownInside_of_not_dict plain]
        exact isStringKeyed_hideUrl k own
      exact entriesStringKeyed_cons.mpr ⟨text, isStringKeyed_ite inside _, ih others⟩

theorem hideInside_ok (p : Policy) (k v : Value) (keyed : v.isStringKeyed = true) :
    ∃ w, hideInside p k v = .ok w ∧ w.isStringKeyed = true := by
  rcases v.eq_dict_or_isDict_eq_false with ⟨es, rfl⟩ | plain
  · have run := hideDeep_eq p (areTextKeyed_of_entriesStringKeyed keyed)
    exact ⟨.dict (shownDeep p es), by rw [hideInside, run]; rfl,
      entriesStringKeyed_shownDeep keyed⟩
  · exact ⟨hideUrl k v, hideInside_of_not_dict plain k, isStringKeyed_hideUrl k keyed⟩

end DocSpace.Redaction
