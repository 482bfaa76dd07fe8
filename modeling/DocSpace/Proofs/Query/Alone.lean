import DocSpace.Proofs.Value.Equality
import DocSpace.Proofs.Value.Sequence
import DocSpace.Query.Clauses

set_option autoImplicit false

namespace DocSpace

namespace Value

def HoldsTexts (v : Value) : Prop := ∃ vs, v.items? = some vs ∧ ∀ w ∈ vs, w.asText?.isSome = true

theorem label_of_textsFrom_eq_error {index : Nat} {vs : List Value} {f : Fault}
    (run : textsFrom index vs = .error f) : f.label = "TypeError" := by
  induction vs generalizing index with
  | nil => cases run
  | cons v vs ih =>
      unfold textsFrom at run
      split at run
      · rcases bind_eq_error.mp run with later | ⟨_, _, impossible⟩
        · exact ih later
        · cases impossible
      · obtain rfl := Except.error.inj run
        rfl

/-- A sequence of texts is joined, and nothing else is. -/
theorem join_cases (v : Value) (sep : String) :
    (v.HoldsTexts ∧ ∃ s, v.join sep = .ok s) ∨
      ¬v.HoldsTexts ∧ ∃ f, v.join sep = .error f ∧ f.label = "TypeError" := by
  cases run : v.join sep with
  | ok s =>
      obtain ⟨vs, ss, parts, texts, _⟩ := join_eq_ok run
      refine .inl ⟨⟨vs, parts, fun w member => ?_⟩, s, rfl⟩
      have listed : w.asText? ∈ ss.map some := texts ▸ List.mem_map_of_mem member
      obtain ⟨t, _, text⟩ := List.mem_map.mp listed
      rw [← text]
      rfl
  | error f =>
      refine .inr ⟨?_, f, rfl, ?_⟩
      · rintro ⟨vs, parts, each⟩
        have texts :=
          textsFrom_of_texts (fun w member => Option.isSome_iff_exists.mp (each w member)) 0
        rw [join, parts] at run
        simp only [texts] at run
        cases run
      · unfold join at run
        split at run
        · rcases bind_eq_error.mp run with inside | ⟨_, _, impossible⟩
          · exact label_of_textsFrom_eq_error inside
          · cases impossible
        · obtain rfl := Except.error.inj run
          rfl

theorem isNull_iff {v : Value} : v.isNull = true ↔ v = null := by
  cases v <;> simp [isNull]

end Value

namespace Query

/-- Options, in the order of their clauses. -/
inductive Choice where
  | filters | selections | pagination | relations | sort | sortBy
  deriving DecidableEq

def Choice.all : List Choice := [.filters, .selections, .pagination, .relations, .sort, .sortBy]

theorem Choice.mem_all (c : Choice) : c ∈ all := by cases c <;> decide

def ListOptions.empty : ListOptions := QueryOptions.empty.withPagination none

def ListOptions.only (o : ListOptions) : Choice → ListOptions
  | .filters => { empty with filters := o.filters }
  | .selections => { empty with selections := o.selections }
  | .pagination => { empty with pagination := o.pagination }
  | .relations => { empty with relations := o.relations }
  | .sort => { empty with sort := o.sort }
  | .sortBy => { empty with sortBy := o.sortBy }

def ListOptions.clauseOf (o : ListOptions) : Choice → Except Fault String
  | .filters => .ok (filterClause o.filters)
  | .selections => selectClause o.selections
  | .pagination => .ok (paginationClause o.pagination)
  | .relations => relationsClause o.relations
  | .sort => presetClause o.sort
  | .sortBy => .ok (sortByClause o.sortBy)

/-- The clauses of all options in order; the first that fails decides. -/
theorem queryString_eq_mapM (o : ListOptions) :
    queryString o = (Choice.all.mapM o.clauseOf).map String.join := by
  simp only [queryString, Choice.all, List.mapM_cons, List.mapM_nil, ListOptions.clauseOf]
  cases selectClause o.selections with
  | error f => rfl
  | ok select =>
      cases relationsClause o.relations with
      | error f => rfl
      | ok relations =>
          cases presetClause o.sort with
          | error f => rfl
          | ok preset =>
              refine congrArg Except.ok ?_
              simp [String.join]

theorem clauseOf_only_self (o : ListOptions) (c : Choice) :
    (o.only c).clauseOf c = o.clauseOf c := by
  cases c <;> rfl

theorem clauseOf_only_of_ne (o : ListOptions) {c d : Choice} (other : d ≠ c) :
    (o.only c).clauseOf d = .ok "" := by
  cases c <;> cases d <;> first | rfl | exact absurd rfl other

theorem Choice.ne_of_mem_before {before after : List Choice} {b c : Choice}
    (split : all = before ++ c :: after) (member : b ∈ before) : b ≠ c := by
  rintro rfl
  have distinct : all.Nodup := by decide
  rw [split] at distinct
  exact (List.nodup_append.mp distinct).2.2 b member b List.mem_cons_self rfl

theorem queryString_only (o : ListOptions) (c : Choice) :
    queryString (o.only c) = o.clauseOf c := by
  rw [queryString_eq_mapM, ← clauseOf_only_self]
  cases own : (o.only c).clauseOf c with
  | ok s =>
      have each : ∀ d ∈ Choice.all, (o.only c).clauseOf d = .ok (if d = c then s else "") := by
        intro d _
        by_cases same : d = c
        · rw [same, if_pos rfl, own]
        · rw [if_neg same, clauseOf_only_of_ne o same]
      rw [mapM_eq_ok_map each]
      refine congrArg Except.ok ?_
      cases c <;> simp [Choice.all, String.join]
  | error f =>
      -- The clauses before it are empty and do not fail, so this one is the first that does.
      obtain ⟨before, after, split⟩ := List.append_of_mem c.mem_all
      have passed : ∀ b ∈ before, ∃ s, (o.only c).clauseOf b = .ok s := fun b member =>
        ⟨"", clauseOf_only_of_ne o (Choice.ne_of_mem_before split member)⟩
      rw [mapM_eq_error.mpr ⟨before, c, after, split, passed, own⟩]
      rfl

/-- A run that fails just under a condition, and then with a fault of the class. -/
structure FailsIff (run : Except Fault String) (label : String) (condition : Prop) : Prop where
  iff : (∃ f, run = .error f) ↔ condition
  label : ∀ f, run = .error f → f.label = label

section FailsIff

variable {run : Except Fault String} {label : String} {condition : Prop}

theorem FailsIff.of_ok {s : String} (passed : run = .ok s) (never : ¬condition) :
    FailsIff run label condition := by
  have unfailing : ∀ f, run ≠ .error f := by
    intro f failed
    rw [passed] at failed
    cases failed
  exact ⟨iff_of_false (fun ⟨f, failed⟩ => unfailing f failed) never,
    fun f failed => absurd failed (unfailing f)⟩

theorem FailsIff.of_error {f : Fault} (failed : run = .error f) (named : f.label = label)
    (holds : condition) : FailsIff run label condition := by
  refine ⟨iff_of_true ⟨f, failed⟩ holds, fun g same => ?_⟩
  obtain rfl := Except.error.inj (failed.symm.trans same)
  exact named

end FailsIff

theorem failsIff_of_join (name : String) {run : Except Fault String} {present : Prop} {v : Value}
    (absent : ¬present → run = .ok "")
    (given : present → run = (v.join ",").map (clause name)) :
    FailsIff run "TypeError" (present ∧ ¬v.HoldsTexts) := by
  by_cases there : present
  · rw [given there]
    rcases v.join_cases "," with ⟨texts, s, joined⟩ | ⟨other, f, failed, label⟩
    · rw [joined]
      exact .of_ok rfl fun both => both.2 texts
    · rw [failed]
      exact .of_error rfl label ⟨there, other⟩
  · exact .of_ok (absent there) fun both => there both.1

theorem selectClause_failsIff (v : Value) :
    FailsIff (selectClause v) "TypeError" (v.truthy = true ∧ ¬v.HoldsTexts) := by
  apply failsIff_of_join "select"
  · intro empty
    rw [selectClause, if_neg empty]
  · intro filled
    rw [selectClause, if_pos filled]
    cases v.join "," <;> rfl

theorem relationsClause_failsIff (v : Value) :
    FailsIff (relationsClause v) "TypeError" (v ≠ .null ∧ ¬v.HoldsTexts) := by
  apply failsIff_of_join "relations"
  · intro missing
    rw [relationsClause, if_pos (Value.isNull_iff.mpr (not_not.mp missing))]
  · intro given
    rw [relationsClause, if_neg (mt Value.isNull_iff.mp given)]
    cases v.join "," <;> rfl

theorem presetClause_failsIff (v : Value) :
    FailsIff (presetClause v) "ValueError"
      (v ≠ .null ∧ ∀ p ∈ Preset.all, v.same (.text p.wireName) = false) := by
  have known : Preset.ofValue? v = none ↔ ∀ p ∈ Preset.all, v.same (.text p.wireName) = false := by
    simp only [Preset.ofValue?, List.find?_eq_none, Value.isText_eq_same, Bool.not_eq_true]
  rw [presetClause, ← known]
  by_cases missing : v = .null
  · rw [if_pos (Value.isNull_iff.mpr missing)]
    exact .of_ok rfl fun both => both.1 missing
  · rw [if_neg (mt Value.isNull_iff.mp missing)]
    cases Preset.ofValue? v with
    | none => exact .of_error rfl rfl ⟨missing, rfl⟩
    | some p =>
        refine .of_ok rfl fun both => ?_
        cases both.2

/-- A query string is that of its options one after another, each taken by itself, and fails as the
first of them does that fails. Filters, pages and orders by a field never fail; selections do if
they are not empty and not texts only, relations if they are given and not texts only, and a preset
if it is given and equals none that there is. -/
theorem queryString_alone (o : ListOptions) :
    (∀ s, queryString o = .ok s ↔ ∃ parts : Choice → String,
        (∀ c, queryString (o.only c) = .ok (parts c)) ∧ s = String.join (Choice.all.map parts)) ∧
      (∀ f, queryString o = .error f ↔ ∃ before c after, Choice.all = before ++ c :: after ∧
        (∀ b ∈ before, ∃ s, queryString (o.only b) = .ok s) ∧
          queryString (o.only c) = .error f) ∧
      (∀ c ∈ [Choice.filters, .pagination, .sortBy], ∃ s, queryString (o.only c) = .ok s) ∧
      FailsIff (queryString (o.only .selections)) "TypeError"
        (o.selections.truthy = true ∧ ¬o.selections.HoldsTexts) ∧
      FailsIff (queryString (o.only .relations)) "TypeError"
        (o.relations ≠ .null ∧ ¬o.relations.HoldsTexts) ∧
      FailsIff (queryString (o.only .sort)) "ValueError"
        (o.sort ≠ .null ∧ ∀ p ∈ Preset.all, o.sort.same (.text p.wireName) = false) := by
  simp only [queryString_only]
  refine ⟨fun s => ?_, fun f => ?_, ?_, selectClause_failsIff _, relationsClause_failsIff _,
    presetClause_failsIff _⟩
  · rw [queryString_eq_mapM, map_eq_ok]
    constructor
    · rintro ⟨ss, run, rfl⟩
      have each (c : Choice) : ∃ part, o.clauseOf c = .ok part := by
        obtain ⟨part, _, own⟩ := exists_of_mapM_eq_ok run c.mem_all
        exact ⟨part, own⟩
      choose parts own using each
      rw [mapM_eq_ok_map fun c _ => own c] at run
      exact ⟨parts, own, congrArg String.join (Except.ok.inj run).symm⟩
    · rintro ⟨parts, own, rfl⟩
      exact ⟨_, mapM_eq_ok_map fun c _ => own c, rfl⟩
  · rw [queryString_eq_mapM, map_eq_error, mapM_eq_error]
  · intro c member
    simp only [List.mem_cons, List.not_mem_nil, or_false] at member
    rcases member with rfl | rfl | rfl <;> exact ⟨_, rfl⟩

end Query

end DocSpace
