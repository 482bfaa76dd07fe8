import DocSpace.Log.State

set_option autoImplicit false

namespace DocSpace.Log

inductive Method where
  | plain (level : Level)
  | exception
  deriving DecidableEq

namespace Method

def named : List (String × Method) :=
  [("debug", plain .debug), ("info", plain .info), ("warning", plain .warning),
    ("warn", plain .warning), ("error", plain .error), ("critical", plain .critical),
    ("fatal", plain .critical), ("exception", exception)]

def ofName? (name : String) : Option Method := named.lookup name

def level : Method → Level
  | plain level => level
  | exception => .error

def word : Method → String
  | plain level => level.word
  | exception => "exception"

/-- An exception comes with its trace, unless the caller says otherwise. -/
def complete (values : Fields) : Method → Fields
  | plain _ => values
  | exception => values.insertNew "exc_info" (.bool true)

end Method

/-- Refuses a value under the name of an argument that the function has got already. -/
def refuse (function : String) (taken : List String) (values : Fields) : Except Fault Unit :=
  match values.find? fun f => taken.contains f.1 with
  | some (name, _) => .error (.call function (.repeated name))
  | none => .ok ()

def receiver : String := "self"

namespace Logger

/-- Name of the kind of logger: not in use yet, configured, or never to be. -/
def kind (l : Logger) : String :=
  match l.attachment with
  | .pending => "BoundLoggerLazyProxy"
  | .fixed _ => "BoundLogger"
  | .detached => "BoundLoggerBase"

def freeFunction : Method → String
  | .plain _ => "_make_filtering_bound_logger.<locals>.make_method.<locals>.meth"
  | .exception => "exception"

/-- A way to log, which a logger has or lacks. Free loggers know one more word for a message. -/
def methodOf (s : State) (l : Logger) (name : String) : Except Fault Method :=
  match Method.ofName? name, (l.attach s).attachment with
  | some m, _ => .ok m
  | none, .fixed _ => .error (.noAttribute "BoundLogger" name)
  | none, _ =>
    if name = "msg" then .ok (.plain .info)
    else .error (.noAttribute "BoundLoggerFilteringAtNotset" name)

/-- An event passes through two functions, each with arguments of its own. -/
def checkValues (l : Logger) (m : Method) (values : Fields) : Except Fault Unit :=
  match l.attachment with
  | .fixed _ => pass (l.kind ++ "." ++ m.word) l.kind
  | .pending | .detached => pass (freeFunction m) "BoundLoggerBase"
where
  pass (function next : String) : Except Fault Unit := do
    refuse function [receiver, eventField] values
    refuse (next ++ "._proxy_to_logger") ["method_name"] values

def log? (s : State) (l : Logger) (m : Method) (event : Value) (values : Fields) :
    Except Fault (Option String) := do
  (l.attach s).checkValues m values
  l.line? s m.level event (m.complete values)

def emit (s : State) (l : Logger) (m : Method) (event : Value) (values : Fields) :
    Except Fault (List String) := do
  return s.write (← l.log? s m event values)

def bindNamed (s : State) (l : Logger) (values : Fields) : Except Fault Logger := do
  refuse (l.kind ++ ".bind") [receiver] values
  return l.bind s values

def makeNamed (s : State) (name : String) (values : Fields) : Except Fault Logger := do
  refuse "get_logger" ["name"] values
  refuse ((named name).kind ++ ".bind") [receiver] values
  return make s name values

end Logger

end DocSpace.Log
