import DocSpace.EnvFile.Assign
import DocSpace.Settings.Load

set_option autoImplicit false

namespace DocSpace.Settings

inductive Source where
  | environment
  | file (content : Option String) (override : Bool)

/-- What the file sets stays set, whatever becomes of the settings. -/
def Source.prepare (source : Source) (env : Environment) : Environment × Option Fault :=
  match source with
  | environment => (env, none)
  | file content override => EnvFile.apply override content env

def Source.load {α : Type} (source : Source) (family : Family α) (env : Environment) :
    Environment × Except Failure α :=
  match source.prepare env with
  | (env, some f) => (env, .error (.fault f))
  | (env, none) => (env, Settings.load family env)

end DocSpace.Settings
