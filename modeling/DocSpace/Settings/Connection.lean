import DocSpace.Log.Level
import DocSpace.Report.Call
import DocSpace.Value.Equality

set_option autoImplicit false

namespace DocSpace

def defaultBaseUrl : String := "https://lax.dokuflow.com"

structure ConnectionSettings where
  spaceName : Value
  apiKey : Value
  baseUrl : String
  timeout : Value
  logLevel : Value
  level : Level

namespace ConnectionSettings

def fieldNames : List String := ["space_name", "api_key", "base_url", "timeout", "log_level"]

def defaults : Named Value :=
  [("base_url", .text defaultBaseUrl), ("timeout", .double (.ofDecimal false 10 0)),
    ("log_level", .text "INFO")]

def refuse {α : Type} (name : String) (v : Value) (reason : String) : Except Failure α := do
  throw (.report (← Report.invalidSetting (.text name) v (.text reason)))

def requireFilled (name : String) (v : Value) : Except Failure Unit :=
  if v.truthy then .ok () else refuse name v "must not be empty"

def isAtMostZero (v : Value) : Except Fault Bool :=
  match v.numeric? with
  | some (.whole i) => .ok (i ≤ 0)
  | some (.double d) => .ok d.isAtMostZero
  | none => .error (.notOrdered "<=" v.qualifiedTypeName (Value.int 0).typeName)

/-- Bytes have an upper case too, but no level has their name. -/
def levelOf (v : Value) : Except Failure Level :=
  match v.asText?, v with
  | some s, _ =>
    match Level.ofName? s with
    | some l => .ok l
    | none => refuse "log_level" v "unknown logging level"
  | none, .bytes _ => refuse "log_level" v "unknown logging level"
  | none, _ => .error (.fault (v.lacking "upper" none))

def trimSlashes (s : String) : String :=
  String.ofList (s.toList.reverse.dropWhile (· = '/')).reverse

/-- The URL without slashes at its end. The type of texts takes the slash for the text. -/
def baseUrlOf (v : Value) : Except Fault String :=
  match v.asText?, v with
  | some s, _ => .ok (trimSlashes s)
  | none, .bytes _ => .error (.notBytesLike Value.textType)
  | none, .type "str" => .ok "/"
  | none, _ => .error (v.lacking "rstrip" Value.textType)

def make (spaceName apiKey baseUrl timeout logLevel : Value) :
    Except Failure ConnectionSettings := do
  requireFilled "space_name" spaceName
  requireFilled "api_key" apiKey
  if ← isAtMostZero timeout then refuse "timeout" timeout "must be positive"
  let level ← levelOf logLevel
  return ⟨spaceName, apiKey, ← baseUrlOf baseUrl, timeout, logLevel, level⟩

def signature : Signature where
  required := fieldNames.filter fun n => !defaults.contains n
  optional := defaults.map (·.1)
  named := []
  takesMore := false

def ofArguments (arguments : Named Value) : Except Failure ConnectionSettings := do
  let m ← signature.construct "DokuflowSettings" [] arguments
  let value (name : String) : Value := (m.values.get? name <|> defaults.get? name).getD .null
  make (value "space_name") (value "api_key") (value "base_url") (value "timeout")
    (value "log_level")

def fields (s : ConnectionSettings) : Named Value :=
  [("space_name", s.spaceName), ("api_key", s.apiKey), ("base_url", .text s.baseUrl),
    ("timeout", s.timeout), ("log_level", s.logLevel)]

end ConnectionSettings

end DocSpace
