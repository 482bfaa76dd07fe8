import DocSpace.Http.Session
import DocSpace.Log.State

set_option autoImplicit false

namespace DocSpace.Http

open Redaction

/-- What a call does: it moves the session, hands over requests, logs events and has a result. -/
structure Trace (α : Type) where
  session : Session
  requests : List Request
  events : List Log.Event
  result : Except Failure α

def Trace.andThen {α β : Type} (t : Trace α) (f : α → Except Failure β) : Trace β :=
  ⟨t.session, t.requests, t.events, t.result.bind f⟩

def Trace.silent {α : Type} (session : Session) (result : Except Failure α) : Trace α :=
  ⟨session, [], [], result⟩

def Trace.logFirst {α : Type} (event : Log.Event) (t : Trace α) : Trace α :=
  { t with events := event :: t.events }

def loggerName : String := "dokuflow.adapters.http.client"

def warning (event : String) (q : Request) (values : Log.Fields) : Log.Event where
  logger := loggerName
  level := .warning
  name := event
  values := [("method", .text q.method.name), ("url", .text (hideKey q.url))] ++ values

def timeoutReport (q : Request) : Report :=
  .plain .timeout ("HTTP request timed out: " ++ q.method.name ++ " " ++ hideKey q.url)

def serviceReport (q : Request) (message : String) (status : Option Nat) : Report :=
  let code : Option Value := status.map fun n => .int n
  .externalService (.text (hideKey q.url)) (.text message) (code.getD .null) .null
    (Report.detailOf ([("method", .text q.method.name)] ++
      (code.map fun n => ("status_code", n)).toList))

def statusReport (q : Request) (status : Nat) : Report :=
  serviceReport q ("HTTP " ++ Number.natText status ++ " from " ++ q.method.name ++ " " ++
    hideKey q.url) (some status)

def conclude (q : Request) : Delivery → List Log.Event × Except Failure Response
  | .response r => ([], .ok r)
  | .fault f => ([], .error (.fault f))
  | .badStatus r text =>
    ([warning "dokuflow.http_error" q [("status_code", .int r.status)]],
      .error (.caused (statusReport q r.status) (.fault (.transport "HTTPStatusError" text))))
  | .raised label message =>
    let f := Fault.transport label message
    if timeouts.contains label then
      ([warning "dokuflow.http_timeout" q []], .error (.caused (timeoutReport q) (.fault f)))
    else if httpErrors.contains label then
      let error := hideKey message
      ([warning "dokuflow.http_error" q [("error", .text error)]],
        .error (.caused (serviceReport q error none) (.fault f)))
    else ([], .error (.fault f))

/-- The request is handed over once, whatever comes back for it. -/
def exchange (session : Session) (q : Request) (outcome : Outcome) : Trace Response :=
  let (session, delivery) := transmit session q outcome
  let (events, result) := conclude q delivery
  ⟨session, [q], events, result⟩

end DocSpace.Http
