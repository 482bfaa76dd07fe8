import DocSpace.Proofs.Schema.Violations

set_option autoImplicit false

namespace DocSpace.Schema

open Query

variable {s : Schema} {o : QueryOptions}

/-- The check returns, or what it raises is a report of violations. -/
def Settles (s : Schema) (o : QueryOptions) : Prop :=
  s.check o = .ok () ∨ ∃ r found, s.check o = .error (.report r) ∧ r.kind = .validation found

theorem settles_iff : s.Settles o ↔ ∃ found, s.complaints o = .ok found := by
  constructor
  · intro settles
    cases run : s.complaints o with
    | ok found => exact ⟨found, rfl⟩
    | error fault =>
        have failed := check_of_fault run
        rcases settles with passed | ⟨r, found, reported, _⟩
        · rw [failed] at passed
          cases passed
        · rw [failed] at reported
          cases reported
  · rintro ⟨found, run⟩
    by_cases none_found : found = []
    · exact Or.inl (check_eq_ok.mpr (none_found ▸ run))
    · obtain ⟨r, reported, kind, _⟩ := check_of_violations run none_found
      exact Or.inr ⟨r, _, reported, kind⟩

/-- A filter that is checked has asked for no comparison that fails. -/
theorem isDecided_of_checkFilter {f : Filter} (text : f.field.asText?.isSome = true)
    {found : List Value} (run : s.checkFilter f = .ok found) : s.IsDecided f := by
  intro hint declared
  obtain ⟨hint?, look, run⟩ := bind_eq_ok.mp run
  rw [find?_of_text text, declared] at look
  obtain rfl := Except.ok.inj look
  obtain ⟨_, compared, _⟩ := bind_eq_ok.mp run
  cases hint with
  | any | mapping _ =>
      refine Or.inr (by_contra fun filled => ?_)
      rw [offending?, if_neg filled] at compared
      cases compared
  | _ => exact Or.inl rfl

theorem find?_list (s : Schema) (vs : List Value) :
    s.find? (.list vs) = .error (.unhashable (Value.list vs).typeName) := rfl

theorem isText_of_checkSortBy {order : SortBy} {found : List Value}
    (shaped : order.field.asText?.isSome = true ∨ ∃ vs, order.field = .list vs)
    (run : s.checkSortBy (some order) = .ok found) : order.field.asText?.isSome = true := by
  refine shaped.resolve_right ?_
  rintro ⟨vs, list⟩
  obtain ⟨_, looked, _⟩ := bind_eq_ok.mp run
  obtain ⟨_, _, own⟩ := exists_of_mapM_eq_ok looked List.mem_cons_self
  rw [list, find?_list] at own
  cases own

/-- A check of named options settles just if no filter compares a value other than `null` with a
type that takes no comparison, and the order goes by one name. -/
theorem settles_iff_isDecided (named : o.IsNamed)
    (shaped : ∀ order ∈ o.sortBy, order.field.asText?.isSome = true ∨
      ∃ vs, order.field = .list vs) :
    s.Settles o ↔ (∀ f ∈ o.filters.getD [], s.IsDecided f) ∧
      ∀ order ∈ o.sortBy, order.field.asText?.isSome = true := by
  rw [settles_iff]
  constructor
  · rintro ⟨found, run⟩
    obtain ⟨filters, filterRun, run⟩ := bind_eq_ok.mp run
    obtain ⟨select, _, run⟩ := bind_eq_ok.mp run
    obtain ⟨relations, _, run⟩ := bind_eq_ok.mp run
    obtain ⟨sort, sortRun, _⟩ := bind_eq_ok.mp run
    refine ⟨fun f member => ?_, fun order given => ?_⟩
    · obtain ⟨own, _, checked⟩ := exists_of_mapM_eq_ok filterRun member
      exact isDecided_of_checkFilter (named.fields f member) checked
    · rw [Option.mem_def.mp given] at sortRun
      exact isText_of_checkSortBy (shaped order given) sortRun
  · rintro ⟨decided, order⟩
    exact ⟨_, complaints_eq named decided order⟩

def noteType : DocumentType := ⟨⟨.mapping, "Note", [("meta", .hint .any)]⟩, []⟩

def noteSchema : Schema := ⟨"Note", [("meta", .any), ("ID", .plain .text)]⟩

def noteOptions (v : Value) : QueryOptions where
  selections := .list [.text "meta", .text "who"]
  filters := some [⟨.text "meta", .text "IN", .list [.null, v], .refl true, .refl true⟩]
  relations := .text "ab"
  sort := .null
  sortBy := some ⟨.text "ID", .null⟩

theorem isNamed_noteOptions (v : Value) : (noteOptions v).IsNamed where
  fields := by
    intro f member
    rw [List.mem_singleton.mp member]
    rfl
  selections := ⟨.inr rfl, List.forall_mem_cons.mpr ⟨rfl, List.forall_mem_singleton.mpr rfl⟩⟩
  relations := ⟨.inr rfl, List.forall_mem_cons.mpr ⟨rfl, List.forall_mem_singleton.mpr rfl⟩⟩

theorem note_settles_iff_isDecided :
    ofType noteType = .ok noteSchema ∧ (noteOptions .null).IsNamed ∧
      (∀ f ∈ (noteOptions .null).filters.getD [], noteSchema.IsDecided f) ∧
      noteSchema.Settles (noteOptions .null) := by
  have shaped : ∀ order ∈ (noteOptions .null).sortBy, order.field.asText?.isSome = true ∨
      ∃ vs, order.field = .list vs := by
    intro order given
    obtain rfl := Option.some.inj given
    exact .inl rfl
  have decided : ∀ f ∈ (noteOptions .null).filters.getD [], noteSchema.IsDecided f := by
    intro f member hint _
    rw [List.mem_singleton.mp member]
    exact .inr rfl
  have order : ∀ order ∈ (noteOptions .null).sortBy, order.field.asText?.isSome = true := by
    decide
  exact ⟨rfl, isNamed_noteOptions .null, decided,
    (settles_iff_isDecided (isNamed_noteOptions .null) shaped).mpr ⟨decided, order⟩⟩

/-- A text in the place of any value ends the check with a fault. -/
theorem note_check_faults :
    ofType noteType = .ok noteSchema ∧ (noteOptions (.text "x")).IsNamed ∧
      noteSchema.check (noteOptions (.text "x")) = .error (.fault .anyUnchecked) ∧
      ¬ noteSchema.Settles (noteOptions (.text "x")) := by
  have failed : noteSchema.check (noteOptions (.text "x")) = .error (.fault .anyUnchecked) := rfl
  refine ⟨rfl, isNamed_noteOptions _, failed, ?_⟩
  rintro (passed | ⟨r, found, reported, _⟩)
  · rw [failed] at passed
    cases passed
  · rw [failed] at reported
    cases reported

end DocSpace.Schema
