import DocSpace.Proofs.Success
import DocSpace.Settings.Load

set_option autoImplicit false

namespace DocSpace

def Failure.IsConfig (e : Failure) : Prop := ∃ r, e.report? = some r ∧ r.kind.isConfig = true

namespace Settings

variable {word : String} {env : Environment} {f : Field} {α : Type}

theorem readField_eq_ok {v : Value} :
    readField word env f = .ok v ↔
      (∃ raw, env.get? (variableName word f.name) = some raw ∧ coerce f.annotation raw = .ok v) ∨
        (env.get? (variableName word f.name) = none ∧ f.default? = some v) := by
  simp only [readField]
  cases found : env.get? (variableName word f.name) with
  | some raw => simp [mapError_eq_ok]
  | none => cases f.default? <;> simp

/-- A field that cannot be read has a variable that its type does not take, or has nothing. -/
theorem readField_eq_error {e : Failure} :
    readField word env f = .error e ↔
      (∃ raw fault, env.get? (variableName word f.name) = some raw ∧
          coerce f.annotation raw = .error fault ∧
          e = unreadable (variableName word f.name) raw fault) ∨
        (env.get? (variableName word f.name) = none ∧ f.default? = none ∧
          e = .report (.missingSetting (.text (variableName word f.name)))) := by
  simp only [readField]
  cases found : env.get? (variableName word f.name) with
  | some raw => simp [mapError_eq_error]
  | none => cases f.default? <;> simp [eq_comm]

/-- Values that are read have the names of their fields, in their order. -/
theorem readFields_eq_ok {fields : List Field} {values : Named Value} :
    readFields word env fields = .ok values ↔
      List.Forall₂ (fun f e => e.1 = f.name ∧ readField word env f = .ok e.2) fields values := by
  have pair (f : Field) (e : String × Value) :
      (do return (f.name, ← readField word env f)) = Except.ok (ε := Failure) e ↔
        e.1 = f.name ∧ readField word env f = .ok e.2 := by
    rw [bind_eq_ok]
    constructor
    · rintro ⟨v, read, same⟩
      obtain rfl := Except.ok.inj same
      exact ⟨rfl, read⟩
    · rintro ⟨name, read⟩
      exact ⟨e.2, read, by rw [← name]; rfl⟩
  simp only [readFields, mapM_eq_ok, pair]

theorem exists_of_mem_readFields {fields : List Field} {values : Named Value}
    (run : readFields word env fields = .ok values) {e : String × Value} (member : e ∈ values) :
    ∃ f ∈ fields, e.1 = f.name ∧ readField word env f = .ok e.2 :=
  exists_of_forall₂ (List.Forall₂.flip (readFields_eq_ok.mp run)) member

theorem exists_readField_of_readFields {fields : List Field} {values : Named Value}
    (run : readFields word env fields = .ok values) (member : f ∈ fields) :
    ∃ v, readField word env f = .ok v := by
  obtain ⟨e, _, _, read⟩ := exists_of_forall₂ (readFields_eq_ok.mp run) member
  exact ⟨e.2, read⟩

/-- The first field that cannot be read decides how the reading fails. -/
theorem readFields_eq_error {fields : List Field} {e : Failure} :
    readFields word env fields = .error e ↔
      ∃ before f after, fields = before ++ f :: after ∧
        (∀ g ∈ before, ∃ v, readField word env g = .ok v) ∧ readField word env f = .error e := by
  have pair (g : Field) : (do return (g.name, ← readField word env g)) =
      (readField word env g).map fun v => (g.name, v) := by
    cases readField word env g <;> rfl
  simp only [readFields, mapM_eq_error, pair, map_eq_error, map_eq_ok]
  refine exists_congr fun before => exists_congr fun f => exists_congr fun after => ?_
  refine and_congr_right fun _ => and_congr_left fun _ => forall₂_congr fun g _ => ?_
  constructor
  · rintro ⟨_, v, read, _⟩
    exact ⟨v, read⟩
  · rintro ⟨v, read⟩
    exact ⟨_, v, read, rfl⟩

theorem load_eq_ok {family : Family α} {s : α} :
    load family env = .ok s ↔
      ∃ values, readFields family.word env family.fields = .ok values ∧
        family.finish values = .ok s := by
  rw [load, bind_eq_ok]
  refine exists_congr fun values => and_congr_right fun _ => ?_
  cases family.finish values with
  | ok t => exact Iff.rfl
  | error f =>
      refine iff_of_false (fun run => ?_) nofun
      obtain ⟨g, _, thrown⟩ := bind_eq_ok.mp run
      cases thrown

/-- What a load fails with when its values are refused. -/
def wrapped (f : Failure) : Failure :=
  match wrap f with
  | .ok e => e
  | .error g => .fault g

theorem wrapped_eq_self {e : Failure} (about : e.IsConfig) : wrapped e = e := by
  obtain ⟨r, report, config⟩ := about
  simp only [wrapped, wrap, report, Option.map_some, config]

theorem wrapped_of_isConfig {r : Report} (about : r.kind.isConfig = true) :
    wrapped (.report r) = .report r :=
  wrapped_eq_self ⟨r, rfl, about⟩

theorem load_eq_error {family : Family α} {e : Failure} :
    load family env = .error e ↔
      readFields family.word env family.fields = .error e ∨
        ∃ values f, readFields family.word env family.fields = .ok values ∧
          family.finish values = .error f ∧ e = wrapped f := by
  rw [load, bind_eq_error]
  refine or_congr_right (exists_congr fun values => ?_)
  rw [exists_and_left]
  refine and_congr_right fun _ => ?_
  cases family.finish values with
  | ok s => exact iff_of_false nofun nofun
  | error f =>
      simp only [Except.error.injEq, exists_eq_left', wrapped]
      cases wrap f with
      | ok g =>
          show Except.error g = _ ↔ _
          simp only [Except.error.injEq, eq_comm]
      | error fault =>
          show Except.error (Failure.fault fault) = _ ↔ _
          simp only [Except.error.injEq, eq_comm]

end Settings

end DocSpace
