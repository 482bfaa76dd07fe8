import DocSpace.Log.Line

set_option autoImplicit false

namespace DocSpace.Log

open Redaction

/-- Without a policy nothing has been configured, and no line is written. `handlers` counts what
writes the lines, and `stack` is the text of the calls under way. -/
structure State where
  policy : Option Policy
  threshold : Int
  context : Fields
  handlers : Nat
  stack : String

namespace State

def initial : State := ⟨none, 30, [], 0, ""⟩

def clearHandlers (s : State) : State := { s with handlers := 0 }

def addHandler (s : State) : State := { s with handlers := s.handlers + 1 }

/-- All of a configuration but its threshold. A handler of its own replaces those before it. -/
def install (s : State) (p : Policy) : State :=
  { s with policy := some p }.clearHandlers.addHandler

def configure (s : State) (threshold : Int) (p : Policy) : State :=
  { s.install p with threshold := threshold }

def defaultThreshold : Int := Level.info.number

def thresholdOf : Value → Except Fault Int
  | .int i | .intMember _ _ i => .ok i
  | .bool b => .ok (if b then 1 else 0)
  | .text name => (thresholdNames.lookup name).elim (.error (.unknownLevel name)) .ok
  | v => .error (.notALevel v)

/-- A configuration as callers give it. The threshold comes last, so one that is refused leaves the
rest in place. -/
def configureBy (s : State) (level : Value) (p : Policy) : State × Except Fault Unit :=
  match thresholdOf level with
  | .ok threshold => (s.configure threshold p, .ok ())
  | .error f => (s.install p, .error f)

def setContext (s : State) (context : Fields) : State :=
  { s with context := Named.insertAll [] context }

end State

/-- How a logger came to its policy: not yet, for good, or never since it was made too early. -/
inductive Attachment where
  | pending
  | fixed (p : Policy)
  | detached

structure Logger where
  name : String
  bound : Fields
  attachment : Attachment

namespace Logger

/-- A logger without values waits for its first use. -/
def named (name : String) : Logger := ⟨name, [], .pending⟩

def attach (s : State) (l : Logger) : Logger :=
  match l.attachment, s.policy with
  | .pending, some p => { l with attachment := .fixed p }
  | _, _ => l

/-- A logger with more values; it has to have its policy now. -/
def bind (s : State) (l : Logger) (values : Fields) : Logger :=
  let l := l.attach s
  { l with
    bound := l.bound.insertAll values
    attachment := match l.attachment with
      | .pending => .detached
      | a => a }

def make (s : State) (name : String) (values : Fields) : Logger :=
  if values.isEmpty then named name else (named name).bind s values

/-- The line of an event, if one is written. Its fields are put together before the threshold is
looked at, and an event that JSON cannot hold leaves no line. -/
def line? (s : State) (l : Logger) (level : Level) (event : Value) (values : Fields) :
    Except Fault (Option String) :=
  match (l.attach s).attachment with
  | .fixed p => do
    let fs ← hideFields p (eventFields l.bound values event)
    let line ← lineFields l.name level s.stack s.context fs
    if s.threshold ≤ level.number then
      return (Json.encode Json.logStyle (toRecord line)).toOption
    else return none
  | .pending | .detached => .ok none

end Logger

/-- An event of the library itself, whose loggers have no values. -/
structure Event where
  logger : String
  level : Level
  name : String
  values : Fields

/-- Every handler writes the line. -/
def State.write (s : State) (line : Option String) : List String :=
  line.toList.flatMap (List.replicate s.handlers)

def State.lines (s : State) (events : List Event) : List String :=
  events.flatMap fun e =>
    s.write ((Logger.named e.logger).line? s e.level (.text e.name) e.values).toOption.join

end DocSpace.Log
