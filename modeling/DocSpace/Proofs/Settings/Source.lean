import DocSpace.Proofs.EnvFile.Assign
import DocSpace.Settings.Declaration

set_option autoImplicit false

namespace DocSpace.Settings

open EnvFile

variable {α : Type}

/-- A class of settings, as a family of fields or as it is declared. -/
inductive Class (α : Type) where
  | family (family : Family α)
  | declared (declaration : Declaration) (finish : Named Value → Except Failure α)

def Class.load (c : Class α) (source : Source) (env : Environment) :
    Environment × Except Failure α :=
  match c with
  | family f => source.load f env
  | declared d finish => d.load finish source env

/-- A source that is prepared without a fault leaves a load from the environment to do. -/
theorem Class.load_of_prepare {c : Class α} {source : Source} {env env' : Environment}
    (prepared : source.prepare env = (env', none)) :
    c.load source env = c.load .environment env' ∧ (c.load .environment env').1 = env' := by
  cases c with
  | family f =>
      simp only [load, Source.load, prepared]
      exact ⟨rfl, rfl⟩
  | declared d finish =>
      simp only [load, Declaration.load]
      cases d.upperWord with
      | ok word =>
          simp only [Source.load, prepared]
          exact ⟨rfl, rfl⟩
      | error f =>
          simp only [prepared]
          exact ⟨rfl, rfl⟩

/-- With a file the environment is updated, and settings are loaded from what it is then. Variables
that the file does not assign stay as they are, and without `override` so do those that are set;
then another load by way of the file changes nothing and ends the same way. -/
theorem load_file_eq_load_environment (c : Class α) (override : Bool) (content : Option String)
    (env : Environment)
    (accepted : Accepted (resolve override env (assignmentsOf content))) :
    ∃ env', (c.load (.file content override) env).1 = env' ∧
      c.load (.file content override) env = c.load .environment env' ∧
      (∀ n, ¬ Assigns (assignmentsOf content) n → env'.get? n = env.get? n) ∧
      (override = false →
        (∀ n, env.get? n ≠ none → env'.get? n = env.get? n) ∧
          c.load (.file content override) env' = c.load (.file content override) env) := by
  have prepared : (Source.file content override).prepare env =
      ((apply override content env).1, none) :=
    Prod.ext rfl (apply_snd accepted)
  obtain ⟨loaded, kept⟩ := c.load_of_prepare prepared
  refine ⟨(apply override content env).1, by rw [loaded, kept], loaded, fun n unassigned => ?_, ?_⟩
  · exact (get?_apply accepted n).resolve_right fun changed => unassigned changed.1
  · rintro rfl
    refine ⟨fun n set => (get?_apply accepted n).resolve_right fun changed => ?_, ?_⟩
    · exact changed.2.elim (fun overridden => nomatch overridden) set
    · have again : (Source.file content false).prepare (apply false content env).1 =
          ((apply false content env).1, none) := by
        refine (apply_apply accepted).trans (Prod.ext rfl ?_)
        exact apply_snd accepted
      rw [loaded, (c.load_of_prepare again).1]

/-- A file whose values refer to the environment and to each other. -/
def sketch : String :=
  "KEY=$\x7bBASE\x7d-1\nDOKUFLOW_SPACE_NAME=acme\nBASE=c\n" ++
    "DOKUFLOW_API_KEY=$\x7bKEY\x7d$\x7bBASE\x7d\n"

def sketched : Environment := [("BASE", "b")]

/-- The file leaves the base alone, so that the key is the same when the file is read again. -/
theorem sketch_load_eq_load_environment :
    Accepted (resolve false sketched (assignmentsOf (some sketch))) ∧
      let c := Class.family connection
      let source := Source.file (some sketch) false
      ∃ env', env' = sketched ++ [("KEY", "b-1"), ("DOKUFLOW_SPACE_NAME", "acme"),
            ("DOKUFLOW_API_KEY", "b-1b")] ∧
        c.load source sketched = c.load .environment env' ∧
        (∀ n, ¬ Assigns (assignmentsOf (some sketch)) n → env'.get? n = sketched.get? n) ∧
        (∀ n, sketched.get? n ≠ none → env'.get? n = sketched.get? n) ∧
        c.load source env' = c.load source sketched := by
  have values : resolve false sketched (assignmentsOf (some sketch)) =
      [("KEY", some "b-1"), ("DOKUFLOW_SPACE_NAME", some "acme"), ("BASE", some "c"),
        ("DOKUFLOW_API_KEY", some "b-1b")] := rfl
  have accepted : Accepted (resolve false sketched (assignmentsOf (some sketch))) := by
    rw [values]
    unfold Accepted
    decide
  obtain ⟨env', same, loaded, unassigned, kept⟩ :=
    load_file_eq_load_environment (.family connection) false (some sketch) sketched accepted
  obtain ⟨set, again⟩ := kept rfl
  exact ⟨accepted, env', same.symm, loaded, unassigned, set, again⟩

end DocSpace.Settings
