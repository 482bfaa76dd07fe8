import DocSpace.Proofs.Schema.Check
import DocSpace.Proofs.Value.Classes

set_option autoImplicit false

namespace DocSpace

def Value.names (v : Value) : List Value := v.items?.getD []

/-- `null`, or names one after another; the characters of a text are names too. -/
structure Value.IsNames (v : Value) : Prop where
  sequence : v.isNull = true ∨ v.items?.isSome = true
  texts : ∀ w ∈ v.names, w.asText?.isSome = true

theorem Value.IsNames.null : Value.null.IsNames := ⟨.inl rfl, nofun⟩

/-- Whether values can be compared with the type: neither the type of anything nor dictionaries with
declared keys can be asked. -/
def Hint.isComparable : Hint → Bool
  | .any | .mapping _ => false
  | _ => true

namespace Query.QueryOptions

/-- Fields, selections and relations are given by names. -/
structure IsNamed (o : QueryOptions) : Prop where
  fields : ∀ f ∈ o.filters.getD [], f.field.asText?.isSome = true
  selections : o.selections.IsNames
  relations : o.relations.IsNames

end Query.QueryOptions

namespace Schema

open Query

variable {s : Schema} {o : QueryOptions}

def undeclared (s : Schema) (clause : String) (names : List Value) : List Value :=
  (names.filter fun n => (s.lookup n).isNone).map (s.unknownField clause)

/-- A field that is not declared, or else the first operand that the class of the field refuses;
only plain classes refuse any. -/
def filterViolations (s : Schema) (f : Filter) : List Value :=
  match s.lookup f.field with
  | none => [s.unknownField "filters" f.field]
  | some (.plain c) =>
    match f.operands.find? (·.offends c) with
    | none => []
    | some v => [complaint "filters" f.field ("expected " ++ c.name ++ ", got " ++ v.typeName)]
  | some _ => []

def violations (s : Schema) (o : QueryOptions) : List Value :=
  (o.filters.getD []).flatMap s.filterViolations ++ s.undeclared "select" o.selections.names ++
    s.undeclared "relations" o.relations.names ++
    s.undeclared "sort" (o.sortBy.toList.map (·.field))

/-- A filter does not ask for a comparison with a type that takes none. -/
def IsDecided (s : Schema) (f : Filter) : Prop :=
  ∀ hint, s.lookup f.field = some hint →
    hint.isComparable = true ∨ f.operands.all Value.isNull = true

theorem find?_of_text {v : Value} (text : v.asText?.isSome = true) :
    s.find? v = .ok (s.lookup v) := by
  cases v <;> first | rfl | cases text

theorem unknownFields_eq (clause : String) {names : List Value}
    (texts : ∀ n ∈ names, n.asText?.isSome = true) :
    s.unknownFields clause names = .ok (s.undeclared clause names) := by
  have found : names.mapM (fun n => do return (n, ← s.find? n)) =
      (.ok (names.map fun n => (n, s.lookup n)) : Except Fault _) := by
    refine mapM_eq_ok_map fun n member => ?_
    rw [find?_of_text (texts n member)]
    rfl
  rw [unknownFields, found]
  refine congrArg Except.ok ?_
  rw [undeclared, List.filter_map, List.map_map]
  rfl

theorem names_eq_nil {v : Value} (absent : v.truthy = false) : v.names = [] := by
  cases v with
  | text s | textMember _ _ s =>
      have empty : s = "" := by simpa [Value.truthy] using absent
      rw [empty]
      rfl
  | list vs | tuple vs | dict es | bytes bs =>
      simpa [Value.truthy, Value.names, Value.items?] using absent
  | type name => cases absent
  | _ => rfl

theorem checkNames_eq (clause : String) {v : Value} (named : v.IsNames) :
    s.checkNames clause v = .ok (s.undeclared clause v.names) := by
  unfold checkNames
  cases given : v.truthy with
  | false => rw [names_eq_nil given]; rfl
  | true =>
      have present : v.items?.isSome = true := by
        refine named.sequence.resolve_left ?_
        rw [Value.isNull_eq_false_of_truthy given]
        exact Bool.false_ne_true
      obtain ⟨vs, parts⟩ := Option.isSome_iff_exists.mp present
      have items : v.items = .ok v.names := by
        rw [Value.items, Value.names, parts]
        rfl
      rw [items]
      exact unknownFields_eq clause named.texts

theorem offending?_plain (c : ClassType) (vs : List Value) :
    offending? (.plain c) vs = .ok ((vs.find? (·.offends c)).map fun v => (c.name, v)) := by
  have same : (fun v => !c.accepts v) = (·.offends c) := by
    funext v
    rw [Value.accepts_eq, Bool.not_not]
  rw [offending?, firstOffending?, same]

theorem checkFilter_eq {f : Filter} (text : f.field.asText?.isSome = true)
    (decided : s.IsDecided f) : s.checkFilter f = .ok (s.filterViolations f) := by
  refine bind_eq_ok.mpr ⟨s.lookup f.field, find?_of_text text, ?_⟩
  unfold filterViolations
  cases found : s.lookup f.field with
  | none => rfl
  | some hint =>
      cases hint with
      | plain c =>
          refine bind_eq_ok.mpr ⟨_, offending?_plain c f.operands, ?_⟩
          cases offender : f.operands.find? (·.offends c) <;> simp only [offender] <;> rfl
      | any | mapping _ =>
          have absent := (decided _ found).resolve_left Bool.false_ne_true
          exact bind_eq_ok.mpr ⟨none, if_pos absent, rfl⟩
      | _ => rfl

/-- Where every filter is decided, the check runs to its end. -/
theorem complaints_eq (named : o.IsNamed) (decided : ∀ f ∈ o.filters.getD [], s.IsDecided f)
    (order : ∀ order ∈ o.sortBy, order.field.asText?.isSome = true) :
    s.complaints o = .ok (s.violations o) := by
  have filters : (o.filters.getD []).mapM s.checkFilter =
      .ok ((o.filters.getD []).map s.filterViolations) :=
    mapM_eq_ok_map fun f member => checkFilter_eq (named.fields f member) (decided f member)
  have sort : s.checkSortBy o.sortBy =
      .ok (s.undeclared "sort" (o.sortBy.toList.map (·.field))) := by
    cases given : o.sortBy with
    | none => rfl
    | some by_field =>
        refine unknownFields_eq "sort" fun n member => ?_
        rw [List.mem_singleton.mp member]
        exact order by_field given
  rw [complaints, filters, checkNames_eq "select" named.selections,
    checkNames_eq "relations" named.relations, sort, violations, List.flatMap_def]
  rfl

theorem check_of_fault {fault : Fault} (fails : s.complaints o = .error fault) :
    s.check o = .error (.fault fault) := by
  rw [check, fails]
  rfl

theorem check_of_violations {found : List Value} (run : s.complaints o = .ok found)
    (some_found : found ≠ []) :
    ∃ r, s.check o = .error (.report r) ∧ r.kind = .validation (.list found) ∧
      r.message = .text ("Invalid query options for " ++ s.name) := by
  obtain ⟨v, vs, rfl⟩ := List.exists_cons_of_ne_nil some_found
  refine ⟨.validation (.text ("Invalid query options for " ++ s.name)) (.list (v :: vs)) .null
    .null, ?_, rfl, rfl⟩
  rw [check, run]
  rfl

/-- The violations that a check reports. -/
def reported (s : Schema) (o : QueryOptions) : List Value :=
  match s.check o with
  | .error (.report r) =>
    match r.kind with
    | .validation (.list found) => found
    | _ => []
  | _ => []

end Schema

end DocSpace
