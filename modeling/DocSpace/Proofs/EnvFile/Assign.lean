import DocSpace.EnvFile.Assign
import DocSpace.Proofs.Named

set_option autoImplicit false

namespace DocSpace.EnvFile

variable {override : Bool} {env env' : Environment} {values : Values}
  {assignments : List Assignment} {n v : String}

/-- Names and values that the environment accepts. -/
def Accepted (values : Values) : Prop :=
  ∀ e ∈ values, ∀ v ∈ e.2, Environment.refusal? e.1 v = none

/-- Whether the file gives the variable a value; the name alone is none. -/
def Assigns (assignments : List Assignment) (n : String) : Prop :=
  ∃ a ∈ assignments, a.name = n ∧ a.value ≠ none

section Writing

def write (override : Bool) (env : Environment) (e : String × Option String) : Environment :=
  match e.2 with
  | none => env
  | some v => if env.contains e.1 && !override then env else env.insert e.1 v

/-- Values that are accepted are all written. -/
theorem assign_eq_foldl (accepted : Accepted values) :
    assign override env values = (values.foldl (write override) env, none) := by
  induction values generalizing env with
  | nil => rfl
  | cons e values ih =>
      obtain ⟨own, others⟩ := List.forall_mem_cons.mp accepted
      obtain ⟨name, value⟩ := e
      rw [List.foldl_cons]
      cases value with
      | none => exact ih others
      | some v =>
          simp only [assign, write]
          split
          · exact ih others
          · have set : env.set name v = .ok (env.insert name v) := by
              rw [Environment.set, own v rfl]
            rw [set]
            exact ih others

theorem get?_write (override : Bool) (env : Environment) (e : String × Option String)
    (n : String) :
    (write override env e).get? n = env.get? n ∨
      (e.1 = n ∧ e.2 ≠ none ∧ (override = true ∨ env.get? n = none)) := by
  obtain ⟨name, value⟩ := e
  cases value with
  | none => exact Or.inl rfl
  | some v =>
      simp only [write]
      split
      · exact Or.inl rfl
      · next free =>
          by_cases same : n = name
          · subst same
            refine Or.inr ⟨rfl, Option.some_ne_none v, ?_⟩
            cases override with
            | true => exact Or.inl rfl
            | false =>
                rw [Bool.not_false, Bool.and_true, Named.contains_iff] at free
                exact Or.inr (Named.get?_eq_none.mpr free)
          · exact Or.inl (Named.get?_insert_of_ne same v)

/-- A variable changes only where it is given a value, and is free or overridden. -/
theorem get?_foldl_write (override : Bool) (env : Environment) (values : Values) (n : String) :
    (values.foldl (write override) env).get? n = env.get? n ∨
      ((∃ e ∈ values, e.1 = n ∧ e.2 ≠ none) ∧ (override = true ∨ env.get? n = none)) := by
  induction values generalizing env with
  | nil => exact Or.inl rfl
  | cons e values ih =>
      rw [List.foldl_cons]
      rcases get?_write override env e n with kept | ⟨name, value, free⟩
      · rcases ih (write override env e) with same | ⟨⟨f, member, given⟩, free⟩
        · exact Or.inl (same.trans kept)
        · rw [kept] at free
          exact Or.inr ⟨⟨f, List.mem_cons_of_mem e member, given⟩, free⟩
      · exact Or.inr ⟨⟨e, List.mem_cons_self, name, value⟩, free⟩

theorem contains_write (held : env.contains n = true) (e : String × Option String) :
    (write override env e).contains n = true := by
  rw [Named.contains_iff] at held ⊢
  obtain ⟨name, value⟩ := e
  cases value with
  | none => exact held
  | some v =>
      simp only [write]
      split
      · exact held
      · exact Named.mem_names_insert.mpr (Or.inr held)

theorem contains_foldl_write (held : env.contains n = true) (values : Values) :
    (values.foldl (write override) env).contains n = true := by
  induction values generalizing env with
  | nil => exact held
  | cons e values ih => exact ih (contains_write held e)

theorem contains_of_mem (member : (n, some v) ∈ values) :
    (values.foldl (write override) env).contains n = true := by
  induction values generalizing env with
  | nil => exact absurd member List.not_mem_nil
  | cons e values ih =>
      rcases List.mem_cons.mp member with rfl | rest
      · refine contains_foldl_write ?_ values
        simp only [write]
        split
        · next set => exact ((Bool.and_eq_true _ _).mp set).1
        · exact Named.contains_iff.mpr (Named.mem_names_insert.mpr (Or.inl rfl))
      · exact ih rest

/-- Where everything is set already nothing is. -/
theorem assign_eq_self (set : ∀ n v, (n, some v) ∈ values → env.contains n = true) :
    assign false env values = (env, none) := by
  induction values with
  | nil => rfl
  | cons e values ih =>
      have rest := ih fun n v member => set n v (List.mem_cons_of_mem e member)
      obtain ⟨name, value⟩ := e
      cases value with
      | none => exact rest
      | some v =>
          have held := set name v List.mem_cons_self
          simp only [assign, held, Bool.not_false, Bool.and_self, ↓reduceIte]
          exact rest

end Writing

section Resolving

def outline (values : Values) : Named Bool := values.map fun e => (e.1, e.2.isSome)

/-- Puts an assignment behind those before it. -/
def note (earlier : Named Bool) (a : Assignment) : Named Bool :=
  earlier.insert a.name a.value.isSome

/-- Interpolation fills in values and neither adds nor drops any. -/
theorem outline_resolve (override : Bool) (env : Environment) (assignments : List Assignment) :
    outline (resolve override env assignments) =
      assignments.foldl note [] := by
  unfold resolve
  have each (earlier : Values) :
      outline (assignments.foldl (fun earlier a =>
          earlier.insert a.name (a.value.map (interpolate (scope override env earlier)))) earlier) =
        assignments.foldl note (outline earlier) := by
    induction assignments generalizing earlier with
    | nil => rfl
    | cons a assignments ih =>
        rw [List.foldl_cons, List.foldl_cons, ih, outline, Named.map_insert, Option.isSome_map]
        rfl
  exact each []

theorem mem_outline : (n, true) ∈ outline values ↔ ∃ v, (n, some v) ∈ values := by
  simp only [outline, List.mem_map, Prod.mk.injEq]
  constructor
  · rintro ⟨⟨name, value⟩, member, rfl, filled⟩
    obtain ⟨v, rfl⟩ := Option.isSome_iff_exists.mp filled
    exact ⟨v, member⟩
  · rintro ⟨v, member⟩
    exact ⟨_, member, rfl, rfl⟩

theorem mem_foldl_note {earlier : Named Bool} (found : (n, true) ∈ assignments.foldl note earlier) :
    (n, true) ∈ earlier ∨ Assigns assignments n := by
  induction assignments generalizing earlier with
  | nil => exact Or.inl found
  | cons a assignments ih =>
      rw [List.foldl_cons] at found
      rcases ih found with old | ⟨b, later, own⟩
      · rcases Named.eq_or_mem_of_mem_insert old with new | old
        · obtain ⟨name, filled⟩ := Prod.mk.inj new
          refine Or.inr ⟨a, List.mem_cons_self, name.symm, ?_⟩
          exact Option.isSome_iff_ne_none.mp filled.symm
        · exact Or.inl old
      · exact Or.inr ⟨b, List.mem_cons_of_mem a later, own⟩

/-- A variable has a value only if the file gives it one. -/
theorem assigns_of_mem_resolve (member : (n, some v) ∈ resolve override env assignments) :
    Assigns assignments n := by
  have outlined := mem_outline.mpr ⟨v, member⟩
  rw [outline_resolve] at outlined
  exact (mem_foldl_note outlined).resolve_left List.not_mem_nil

end Resolving

section Applying

variable {content : Option String}

def assignmentsOf (content : Option String) : List Assignment := read (content.getD "")

theorem apply_of_isOn (on : ¬ isOff env = true) (override : Bool) (content : Option String) :
    apply override content env =
      assign override env (resolve override env (assignmentsOf content)) := by
  rw [apply, if_neg on]
  rfl

theorem apply_snd (accepted : Accepted (resolve override env (assignmentsOf content))) :
    (apply override content env).2 = none := by
  by_cases off : isOff env = true
  · rw [apply, if_pos off]
  · rw [apply_of_isOn off, assign_eq_foldl accepted]

/-- A variable changes only where the file gives it a value, and is free or overridden. -/
theorem get?_apply (accepted : Accepted (resolve override env (assignmentsOf content)))
    (n : String) :
    (apply override content env).1.get? n = env.get? n ∨
      (Assigns (assignmentsOf content) n ∧ (override = true ∨ env.get? n = none)) := by
  by_cases off : isOff env = true
  · rw [apply, if_pos off]
    exact Or.inl rfl
  · rw [apply_of_isOn off, assign_eq_foldl accepted]
    rcases get?_foldl_write override env _ n with same | ⟨⟨e, member, name, value⟩, free⟩
    · exact Or.inl same
    · obtain ⟨v, filled⟩ := Option.ne_none_iff_exists'.mp value
      have given : (n, some v) ∈ resolve override env (assignmentsOf content) := by
        rw [← name, ← filled]
        exact member
      exact Or.inr ⟨assigns_of_mem_resolve given, free⟩

/-- A file that is read again has nothing left to set, whatever its values have become. -/
theorem apply_apply (accepted : Accepted (resolve false env (assignmentsOf content))) :
    apply false content (apply false content env).1 = apply false content env := by
  by_cases off : isOff env = true
  · have same : apply false content env = (env, none) := by rw [apply, if_pos off]
    rw [same, same]
  · have first : apply false content env =
        ((resolve false env (assignmentsOf content)).foldl (write false) env, none) := by
      rw [apply_of_isOn off]
      exact assign_eq_foldl accepted
    rw [first]
    by_cases off' :
        isOff ((resolve false env (assignmentsOf content)).foldl (write false) env) = true
    · rw [apply, if_pos off']
    · rw [apply_of_isOn off']
      refine assign_eq_self fun n v again => ?_
      have outlined := mem_outline.mpr ⟨v, again⟩
      rw [outline_resolve, ← outline_resolve false env] at outlined
      obtain ⟨w, before⟩ := mem_outline.mp outlined
      exact contains_of_mem before

end Applying

end DocSpace.EnvFile
