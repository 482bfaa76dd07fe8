import DocSpace.EnvFile.Interpolation
import DocSpace.EnvFile.Line
import DocSpace.Environment
import DocSpace.Text.LetterCase

set_option autoImplicit false

namespace DocSpace.EnvFile

open Text

/-- Values by name; the last assignment of a name counts. -/
abbrev Values := Named (Option String)

def scope (override : Bool) (env : Environment) (earlier : Values) : Scope := fun name =>
  if override then earlier.get? name <|> (env.get? name).map some
  else (env.get? name).map some <|> earlier.get? name

/-- Values with their references replaced, each by what came before it. -/
def resolve (override : Bool) (env : Environment) (assignments : List Assignment) : Values :=
  assignments.foldl (fun earlier a =>
    earlier.insert a.name (a.value.map (interpolate (scope override env earlier)))) []

/-- Sets one variable after another, up to the first that cannot be set. -/
def assign (override : Bool) (env : Environment) : Values → Environment × Option Fault
  | [] => (env, none)
  | (name, value) :: rest =>
    match value with
    | none => assign override env rest
    | some v =>
      if env.contains name && !override then assign override env rest
      else
        match env.set name v with
        | .ok env => assign override env rest
        | .error f => (env, some f)

def switchName : String := "PYTHON_DOTENV_DISABLED"

def affirmatives : List String := ["1", "true", "t", "yes", "y"]

/-- The word in lower case, where a long s is an s. -/
def foldCase (s : String) : String := lower (s.map fun c => if c = 'ſ' then 's' else c)

def isOff (env : Environment) : Bool :=
  (env.get? switchName).any fun v => affirmatives.contains (foldCase v)

/-- The environment after a file with this content; a missing file changes nothing, nor does any
file where files are turned off. -/
def apply (override : Bool) (content : Option String) (env : Environment) :
    Environment × Option Fault :=
  if isOff env then (env, none)
  else assign override env (resolve override env (read (content.getD "")))

end DocSpace.EnvFile
