import DocSpace.FieldName
import DocSpace.Settings.Source

set_option autoImplicit false

namespace DocSpace.Settings

/-- A class as it is written down; without a first word it has the empty one. -/
structure Declaration where
  word? : Option String
  fields : List Field

def Field.isClassVariable (f : Field) : Bool :=
  match f.annotation with
  | .hint (.classVariable _) => true
  | _ => false

/-- Whether the default is made anew for every object. -/
def Field.hasFactory (f : Field) : Bool :=
  match f.default? with
  | some (.list _) => true
  | _ => false

/-- The type of a default that its objects would share and could change. -/
def Field.sharedType? (f : Field) : Option String :=
  match f.default? with
  | some (.dict _) => some (Value.type "dict").display
  | some (.record name _) => some (Value.angled ("class 'types." ++ name ++ "'"))
  | _ => none

def Field.check (f : Field) : Except Fault Unit :=
  if f.isClassVariable then
    if f.hasFactory then .error (.field f.name .sharedFactory) else .ok ()
  else
    match f.sharedType? with
    | some type => .error (.field f.name (.mutableDefault type))
    | none => .ok ()

/-- Fields without a default come before those with one. -/
def checkDefaults (defaultSeen : Bool) : List Field → Except Fault Unit
  | [] => .ok ()
  | f :: fs =>
    if f.default?.isSome then checkDefaults true fs
    else if defaultSeen then .error (.field f.name .behindDefault)
    else checkDefaults false fs

namespace Declaration

/-- The field that holds the first word. -/
def wordField : String := "_prefix"

def word (d : Declaration) : String := d.word?.getD ""

/-- Steps in which an object is made, by the names of their methods. -/
def steps : List String := ["__post_init__", "_validate"]

/-- What a field without a default is when the class has a method of its name. -/
def methodType : String := "function"

/-- What the class has under a name already. -/
def inherited? (d : Declaration) (name : String) : Option Value :=
  if name = wordField then some (.text d.word)
  else if steps.contains name then some (.type methodType)
  else none

/-- The fields, with what the class has under their names for missing defaults. The one for the
first word comes first. -/
def allFields (d : Declaration) : List Field :=
  let isWord (f : Field) : Bool := f.name == wordField
  let filled := d.fields.map fun f => { f with default? := f.default? <|> d.inherited? f.name }
  filled.filter isWord ++ filled.filter fun f => !isWord f

def ownFields (d : Declaration) : List Field := d.allFields.filter fun f => !f.isClassVariable

def check (d : Declaration) : Except Fault Unit := do
  checkFieldNames (d.fields.map (·.name))
  d.fields.forM Field.check
  checkDefaults false d.ownFields

/-- The first word in capitals; a default of its field counts, unless it is made anew. -/
def upperWord (d : Declaration) : Except Fault String :=
  match d.allFields.find? fun f => f.name == wordField with
  | none => .ok d.word
  | some f =>
    if f.hasFactory then .ok ""
    else
      match f.default? with
      | none => .ok d.word
      | some (.bytes bs) =>
        .ok (Value.bytes (bs.map fun b => (Char.ofNat b.toNat).toUpper.toNat.toUInt8)).display
      | some v =>
        match v.asText? with
        | some s => .ok s
        | none => .error (v.lacking "upper" none)

/-- A step that a field hides is the call of the field's value. -/
def callValue (name : String) : Value → Except Fault Unit
  | .type type =>
    if type = methodType then .error (.call ("Settings." ++ name) (.missing [receiver])) else .ok ()
  | v => .error (.notCallable v.qualifiedTypeName)

/-- The value of a field that hides a step. -/
def hidden? (d : Declaration) (values : Named Value) (step : String) : Option Value :=
  values.get? step <|>
    ((d.fields.find? fun f => f.name == step && f.isClassVariable).bind (·.default?))

/-- The first step that is hidden is the last that is done. -/
def runSteps (d : Declaration) (values : Named Value) : Except Fault Unit :=
  match steps.findSome? fun step => (d.hidden? values step).map fun v => (step, v) with
  | some (step, v) => callValue step v
  | none => .ok ()

/-- Settings of the class from a source. A first word that is no text comes out only then. -/
def load {α : Type} (d : Declaration) (finish : Named Value → Except Failure α) (source : Source)
    (env : Environment) : Environment × Except Failure α :=
  let finish (values : Named Value) : Except Failure α := do
    d.runSteps values
    finish values
  match d.upperWord with
  | .ok word => source.load ⟨word, d.ownFields, finish⟩ env
  | .error f =>
    let (env, earlier) := source.prepare env
    (env, .error (.fault (earlier.getD f)))

end Declaration

end DocSpace.Settings
