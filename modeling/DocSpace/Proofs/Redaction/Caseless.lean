import DocSpace.Proofs.Redaction.Records
import DocSpace.Proofs.Text.LetterCase
import Mathlib.Data.List.Forall2

set_option autoImplicit false

namespace DocSpace.Redaction

open Entries

def isSecret (secret : String → Bool) (k : Value) : Bool := k.asText?.any secret

/-- What the deep pass makes of an entry of a record. Of a record in it the entries tell what is
shown, and any other value is shown as it is, without the access key where it is a URL. -/
def ShowsEntry (secret : String → Bool) (given shown : Value × Value) : Prop :=
  shown.1 = given.1 ∧
    if isSecret secret given.1 then shown.2 = hiddenValue
    else if given.2.isDict then shown.2.isDict = true
    else shown.2 = hideUrl given.1 given.2

/-- Just the secret values of a record have been replaced. -/
def ReplacesFlat (secret : String → Bool) (given shown : Entries) : Prop :=
  List.Forall₂ (fun e e' => e'.1 = e.1 ∧
    e'.2 = if isSecret secret e.1 then hiddenValue else e.2) given shown

/-- And those of every record in it that no secret key leads to. -/
def ReplacesDeep (secret : String → Bool) (given shown : Entries) : Prop :=
  ∀ place before, recordAt? (isSecret secret) place given = some before →
    ∃ there, recordAt? (isSecret secret) place shown = some there ∧
      List.Forall₂ (ShowsEntry secret) before there

def Policy.HidesFlat (p : Policy) (secret : String → Bool) : Prop :=
  ∀ es : Entries, es.areTextKeyed = true →
    ∃ shown, redact p (.dict es) = .ok (.dict shown) ∧ ReplacesFlat secret es shown

def Policy.HidesDeep (p : Policy) (secret : String → Bool) : Prop :=
  ∀ es : Entries, es.areTextKeyed = true →
    ∃ shown, redactDeep p (.dict es) = .ok (.dict shown) ∧ ReplacesDeep secret es shown

section Passes

variable {p : Policy}

theorem hidesFlat_covers (p : Policy) : p.HidesFlat p.covers := by
  intro es keyed
  exact ⟨shownFlat p es, redact_eq p keyed, forall₂_map_self fun _ _ => ⟨rfl, rfl⟩⟩

theorem showsEntry_covers (e : Value × Value) :
    ShowsEntry p.covers e (e.1, if p.hides e.1 then hiddenValue else shownInside p e.1 e.2) := by
  obtain ⟨k, v⟩ := e
  have same : isSecret p.covers k = p.hides k := rfl
  refine ⟨rfl, ?_⟩
  rw [same]
  cases p.hides k with
  | true => rfl
  | false =>
      rcases v.eq_dict_or_isDict_eq_false with ⟨inner, rfl⟩ | plain
      · rfl
      · simp only [plain, Bool.false_eq_true, ↓reduceIte, shownInside_of_not_dict plain]

theorem replacesDeep_shownDeep (p : Policy) (es : Entries) :
    ReplacesDeep p.covers es (shownDeep p es) := by
  intro place
  induction place generalizing es with
  | nil =>
      rintro before ⟨⟩
      refine ⟨shownDeep p es, rfl, ?_⟩
      rw [shownDeep_eq_map]
      exact forall₂_map_self fun e _ => showsEntry_covers e
  | cons i place ih =>
      intro before found
      obtain ⟨k, inner, entry, free, found⟩ := recordAt?_cons_eq_some.mp found
      obtain ⟨there, reached, shows⟩ := ih inner before found
      have shown := getElem?_shownDeep_eq_dict.mpr ⟨free, inner, entry, rfl⟩
      exact ⟨there, recordAt?_cons_eq_some.mpr ⟨k, _, shown, free, reached⟩, shows⟩

theorem hidesDeep_covers (p : Policy) : p.HidesDeep p.covers := by
  intro es keyed
  exact ⟨shownDeep p es, redactDeep_eq p keyed, replacesDeep_shownDeep p es⟩

theorem eq_of_ite_hiddenValue {b c : Bool}
    (same : (if b then hiddenValue else .null) = if c then hiddenValue else .null) : b = c := by
  cases b <;> cases c <;> first | rfl | cases same

/-- There is nothing to show of a value that is none. -/
theorem ShowsEntry.value_of_null {secret : String → Bool} {name : String} {shown : Value × Value}
    (shows : ShowsEntry secret (.text name, .null) shown) :
    shown.2 = if secret name then hiddenValue else .null := by
  obtain ⟨-, value⟩ := shows
  have same : isSecret secret (.text name) = secret name := rfl
  rw [same] at value
  cases named : secret name <;> rw [named] at value <;> exact value

theorem hidesFlat_iff {secret : String → Bool} : p.HidesFlat secret ↔ p.covers = secret := by
  constructor
  · intro law
    funext name
    obtain ⟨shown, run, replaced⟩ := law [(.text name, .null)] rfl
    rw [redact_eq p rfl, Except.ok.injEq, Value.dict.injEq] at run
    subst run
    exact eq_of_ite_hiddenValue (List.forall₂_cons.mp replaced).1.2
  · rintro rfl
    exact hidesFlat_covers p

theorem hidesDeep_iff {secret : String → Bool} : p.HidesDeep secret ↔ p.covers = secret := by
  constructor
  · intro law
    funext name
    obtain ⟨shown, run, replaced⟩ := law [(.text name, .null)] rfl
    rw [redactDeep_eq p rfl, Except.ok.injEq, Value.dict.injEq] at run
    subst run
    obtain ⟨there, reached, shows⟩ := replaced [] _ rfl
    obtain rfl := Option.some.inj reached
    exact eq_of_ite_hiddenValue (List.forall₂_cons.mp shows).1.value_of_null
  · rintro rfl
    exact hidesDeep_covers p

end Passes

section Names

def isNamed (fields : List String) (name : String) : Bool :=
  fields.any fun f => Text.lower name == Text.lower f

/-- A name goes by its lower case, so names that hold their own lower case are met in any case, and
no others are. -/
theorem covers_eq_isNamed_iff {fields : List String} :
    (Policy.mk fields).covers = isNamed fields ↔ ∀ f ∈ fields, Text.lower f ∈ fields := by
  constructor
  · intro same f member
    have named : isNamed fields f = true := List.any_eq_true.mpr ⟨f, member, beq_self_eq_true _⟩
    rw [← same] at named
    exact List.contains_iff_mem.mp named
  · intro closed
    funext name
    rw [Bool.eq_iff_iff, Policy.covers, isNamed, List.contains_iff_mem, List.any_eq_true]
    constructor
    · intro stored
      exact ⟨_, stored, by rw [Text.lower_lower, beq_self_eq_true]⟩
    · rintro ⟨f, member, same⟩
      rw [beq_iff_eq.mp same]
      exact closed f member

/-- Names are looked up in lower case and as they are written: just so are values hidden. A policy
goes by its names in any case only if it holds them in lower case. -/
theorem hides_isNamed_iff {fields : List String} (some : fields ≠ []) :
    let p := Policy.ofFields fields
    (p.HidesFlat fun name => fields.contains (Text.lower name)) ∧
      (p.HidesDeep fun name => fields.contains (Text.lower name)) ∧
      (p.HidesFlat (isNamed fields) ↔ ∀ f ∈ fields, Text.lower f ∈ fields) ∧
      (p.HidesDeep (isNamed fields) ↔ ∀ f ∈ fields, Text.lower f ∈ fields) := by
  intro p
  have own : p = Policy.mk fields := if_neg some
  rw [own, hidesFlat_iff, hidesDeep_iff, hidesFlat_iff, hidesDeep_iff]
  exact ⟨rfl, rfl, covers_eq_isNamed_iff, covers_eq_isNamed_iff⟩

theorem space_hides_isNamed_iff : ["space", "token"] ≠ [] ∧
    (∀ f ∈ ["space", "token"], Text.lower f ∈ ["space", "token"]) ∧
    let p := Policy.ofFields ["space", "token"]
    (p.HidesFlat fun name => ["space", "token"].contains (Text.lower name)) ∧
      (p.HidesDeep fun name => ["space", "token"].contains (Text.lower name)) ∧
      (p.HidesFlat (isNamed ["space", "token"]) ↔
        ∀ f ∈ ["space", "token"], Text.lower f ∈ ["space", "token"]) ∧
      (p.HidesDeep (isNamed ["space", "token"]) ↔
        ∀ f ∈ ["space", "token"], Text.lower f ∈ ["space", "token"]) := by
  have some : ["space", "token"] ≠ [] := by decide
  exact ⟨some, by decide, hides_isNamed_iff some⟩

/-- A policy with a capital in its one name does not hide even what goes by the very name. -/
theorem password_shows :
    let p := Policy.ofFields ["Password"]
    let es : Entries := [(.text "Password", .text "hunter2")]
    isNamed ["Password"] "Password" = true ∧ es.areTextKeyed = true ∧
      redact p (.dict es) = .ok (.dict es) ∧ redactDeep p (.dict es) = .ok (.dict es) ∧
      ¬ReplacesFlat (isNamed ["Password"]) es es ∧ ¬ReplacesDeep (isNamed ["Password"]) es es := by
  intro p es
  have named : isNamed ["Password"] "Password" = true := by decide
  have secret : isSecret (isNamed ["Password"]) (.text "Password") = true := named
  have shown : Value.text "hunter2" ≠ hiddenValue := by simp [hiddenValue, hidden]
  refine ⟨named, rfl, rfl, rfl, fun replaced => shown ?_, fun replaced => shown ?_⟩
  · have value := (List.forall₂_cons.mp replaced).1.2
    rwa [if_pos secret] at value
  · obtain ⟨there, reached, shows⟩ := replaced [] _ rfl
    obtain rfl := Option.some.inj reached
    have value := (List.forall₂_cons.mp shows).1.2
    rwa [if_pos secret] at value

end Names

end DocSpace.Redaction
