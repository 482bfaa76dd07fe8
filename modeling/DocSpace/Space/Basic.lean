import DocSpace.Settings.Source
import DocSpace.Space.Call

set_option autoImplicit false

namespace DocSpace

structure Space where
  settings : ConnectionSettings
  session : Http.Session
  log : Log.State

namespace Space

def ofSettings (settings : ConnectionSettings) (log : Log.State) : Space :=
  ⟨settings, .unopened, log⟩

def logAt (settings : ConnectionSettings) (log : Log.State) : Log.State :=
  log.configure settings.level.number .standard

/-- A space with settings from a source. Logging is configured only once there are settings, and
only if asked for. -/
def ofSource (source : Settings.Source) (configureLogging : Bool) (env : Environment)
    (log : Log.State) : Environment × Log.State × Except Failure Space :=
  match source.load Settings.connection env with
  | (env, .error f) => (env, log, .error f)
  | (env, .ok settings) =>
    let log := if configureLogging then logAt settings log else log
    (env, log, .ok (ofSettings settings log))

def model (s : Space) (id : Value) (type : Option DocumentType) : Except Fault Model :=
  Model.make s.settings id type

def start (s : Space) : Except Fault Space := do return { s with session := ← s.session.start }

def close (s : Space) : Space := { s with session := s.session.close }

def perform (s : Space) (m : Model) (c : Call) (outcome : Http.Outcome) :
    Space × Http.Trace Reply :=
  let t := c.perform s.session m outcome
  ({ s with session := t.session }, t)

def send (s : Space) (q : Http.Request) (outcome : Http.Outcome) :
    Space × Http.Trace Http.Response :=
  let t := Http.exchange s.session q outcome
  ({ s with session := t.session }, t)

end Space

end DocSpace
