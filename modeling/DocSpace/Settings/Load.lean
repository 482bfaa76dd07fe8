import DocSpace.Environment
import DocSpace.Settings.Coercion
import DocSpace.Settings.Connection

set_option autoImplicit false

namespace DocSpace.Settings

open Text

structure Field where
  name : String
  annotation : Annotation
  default? : Option Value

/-- A class of settings: the first word of its variables, its fields, and what is made of their
values in the end. -/
structure Family (α : Type) where
  word : String
  fields : List Field
  finish : Named Value → Except Failure α

def variableName (word name : String) : String :=
  String.ofList ((upper (upper word ++ "_" ++ name)).toList.dropWhile (· = '_'))

def unreadable (key raw : String) (f : Fault) : Failure :=
  .caused (.plain .config ("Cannot parse " ++ key ++ "=" ++ quoted raw ++ ": " ++ f.text))
    (.fault f)

def readField (word : String) (env : Environment) (f : Field) : Except Failure Value :=
  let key := variableName word f.name
  match env.get? key, f.default? with
  | some raw, _ => (coerce f.annotation raw).mapError (unreadable key raw)
  | none, some v => .ok v
  | none, none => .error (.report (.missingSetting (.text key)))

def readFields (word : String) (env : Environment) (fields : List Field) :
    Except Failure (Named Value) :=
  fields.mapM fun f => do return (f.name, ← readField word env f)

/-- A report about configuration stands as it is; any other failure becomes the cause of one. -/
def wrap (f : Failure) : Except Fault Failure :=
  match f.report?.map (·.kind.isConfig) with
  | some true => .ok f
  | _ => do return .caused (.plain .config ("Failed to load settings: " ++ (← f.text))) f

def load {α : Type} (family : Family α) (env : Environment) : Except Failure α := do
  let values ← readFields family.word env family.fields
  match family.finish values with
  | .ok s => return s
  | .error f => throw (← wrap f)

/-- Connection settings, whose fields are declared by the names of their types. -/
def connection : Family ConnectionSettings where
  word := "DOKUFLOW"
  fields :=
    (ConnectionSettings.fieldNames.zip ["str", "str", "str", "float", "str"]).map
      fun (name, type) => ⟨name, .source type, ConnectionSettings.defaults.get? name⟩
  finish := ConnectionSettings.ofArguments

end DocSpace.Settings
