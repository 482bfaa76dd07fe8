import DocSpace.Proofs.Named
import DocSpace.Proofs.Success
import DocSpace.Schema.Basic

set_option autoImplicit false

namespace DocSpace

namespace DocumentType

def declaredNames (t : DocumentType) : List String :=
  t.declarations.flatMap fun d => d.fields.names

/-- Fields with those of a declaration put over them. -/
def addFields (fs : Named Annotation) (d : Declaration) : Named Annotation := fs.insertAll d.fields

def addHints (fs : Named Hint) (d : Declaration) : Except Fault (Named Hint) := do
  return fs.insertAll (← resolveFields d.distinctFields)

/-- The types of the fields that declarations make together, the most general first. -/
def hintsOf (inMapping : Bool) (ds : List Declaration) : Except Fault (Named Hint) :=
  if inMapping then resolveFields (ds.foldl addFields [])
  else ds.foldlM addHints []

theorem hints_eq (t : DocumentType) :
    t.hints = t.check >>= fun _ => hintsOf t.isMapping t.declarations := rfl

theorem names_resolveFields {fields : Named Annotation} {hints : Named Hint}
    (resolved : resolveFields fields = .ok hints) : hints.names = fields.names := by
  have each := mapM_eq_ok.mp resolved
  induction each with
  | nil => rfl
  | cons head _ ih =>
      obtain ⟨hint, _, same⟩ := bind_eq_ok.mp head
      simp only [Named.names, List.map_cons]
      rw [← Except.ok.inj same]
      exact congrArg _ (ih (mapM_eq_ok.mpr ‹_›))

theorem mem_distinctFields {d : Declaration} {n : String} :
    n ∈ d.distinctFields.names ↔ n ∈ d.fields.names := by
  rw [Declaration.distinctFields, Named.mem_names_insertAll]
  exact or_iff_right List.not_mem_nil

/-- Putting declarations together invents no name. -/
theorem mem_names_foldl {ds : List Declaration} {es : Named Annotation} {n : String}
    (member : n ∈ (ds.foldl addFields es).names) :
    n ∈ es.names ∨ ∃ d ∈ ds, n ∈ d.fields.names := by
  induction ds generalizing es with
  | nil => exact Or.inl member
  | cons d ds ih =>
      rcases ih member with merged | ⟨e, he, own⟩
      · rcases Named.mem_names_insertAll.mp merged with old | new
        · exact Or.inl old
        · exact Or.inr ⟨d, List.mem_cons_self, new⟩
      · exact Or.inr ⟨e, List.mem_cons_of_mem d he, own⟩

theorem mem_names_foldlM {ds : List Declaration} {es hints : Named Hint} {n : String}
    (run : ds.foldlM addHints es = .ok hints) (member : n ∈ hints.names) :
    n ∈ es.names ∨ ∃ d ∈ ds, n ∈ d.fields.names := by
  induction ds generalizing es with
  | nil => exact Or.inl (Except.ok.inj run ▸ member)
  | cons d ds ih =>
      obtain ⟨merged, step, rest⟩ := bind_eq_ok.mp run
      obtain ⟨own, resolved, same⟩ := bind_eq_ok.mp step
      rcases ih rest with old | ⟨e, he, declared⟩
      · rw [← Except.ok.inj same] at old
        rcases Named.mem_names_insertAll.mp old with old | new
        · exact Or.inl old
        · rw [names_resolveFields resolved, mem_distinctFields] at new
          exact Or.inr ⟨d, List.mem_cons_self, new⟩
      · exact Or.inr ⟨e, List.mem_cons_of_mem d he, declared⟩

theorem mem_names_hintsOf {inMapping : Bool} {ds : List Declaration} {hints : Named Hint}
    (made : hintsOf inMapping ds = .ok hints) {n : String} (member : n ∈ hints.names) :
    ∃ d ∈ ds, n ∈ d.fields.names := by
  unfold hintsOf at made
  split at made
  · rw [names_resolveFields made] at member
    exact (mem_names_foldl member).resolve_left List.not_mem_nil
  · exact (mem_names_foldlM made member).resolve_left List.not_mem_nil

theorem mem_names_hints {t : DocumentType} {hints : Named Hint} {n : String}
    (read : t.hints = .ok hints) (member : n ∈ hints.names) : n ∈ t.declaredNames := by
  rw [hints_eq] at read
  obtain ⟨_, _, made⟩ := bind_eq_ok.mp read
  exact List.mem_flatMap.mpr (mem_names_hintsOf made member)

end DocumentType

namespace Schema

theorem contains_of_ofType {t : DocumentType} {s : Schema} {n : String}
    (made : ofType t = .ok s) (field : s.contains n = true) :
    n ∈ t.declaredNames ∨ n = identifier := by
  obtain ⟨hints, read, same⟩ := bind_eq_ok.mp made
  rw [← Except.ok.inj same, contains, Named.contains_iff, Named.mem_names_insertNew] at field
  exact field.imp_left (DocumentType.mem_names_hints read)

end Schema

end DocSpace
