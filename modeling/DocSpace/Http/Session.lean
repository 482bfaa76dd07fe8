import DocSpace.Failure
import DocSpace.Http.Message
import DocSpace.Http.Redirect

set_option autoImplicit false

namespace DocSpace.Http

inductive Session where
  | unopened | opened | closed
  deriving DecidableEq

namespace Session

def start : Session → Except Fault Session
  | unopened => .ok opened
  | opened => .error (.session .openTwice)
  | closed => .error (.session .reopen)

def close (_ : Session) : Session := closed

end Session

/-- Bodies that are `null` are not written. -/
def checkBody : Option Value → Except Fault Unit
  | none | some .null => .ok ()
  | some v => (Json.encode Json.bodyStyle v).map fun _ => ()

/-- How a transmission ends short of an error of the library. -/
inductive Delivery where
  | response (r : Response)
  | badStatus (r : Response) (text : String)
  | raised (label message : String)
  | fault (f : Fault)

/-- What becomes of a response: its address has to be absolute, a redirect has to lead to an
address, and the status says whether it is a success. -/
def accept (address : Address) (r : Response) : Delivery :=
  if !address.isAbsolute then .fault (.unknownUrlType address.text)
  else
    match r.location?.forM (checkRedirect address) with
    | .error (.unreadable message) =>
      .raised "RemoteProtocolError" ("Invalid URL in location header: " ++ message ++ ".")
    | .error (.fault f) => .fault f
    | .ok () => if isSuccess r.status then .response r else .badStatus r (r.statusText address)

/-- Errors of the transport that have messages of their own, and so are made with none. -/
def selfExplained : List String :=
  ["StreamConsumed", "StreamClosed", "ResponseNotRead", "RequestNotRead"]

/-- Whether an error of the transport can be made with nothing but a message. -/
def checkError (label : String) : Except Fault Unit :=
  let function := label ++ ".__init__"
  if selfExplained.contains label then throw (.call function (.tooMany 1 1 2 0))
  else if label = "HTTPStatusError" then
    throw (.call function (.missingNamed ["request", "response"]))
  else return ()

def deliver (address : Address) : Outcome → Delivery
  | .broken f _ => .fault f
  | .raised label message =>
    match checkError label with
    | .error f => .fault f
    | .ok () => .raised label message
  | .response r =>
    match r.checkHeaders, ContentCoding.decodeAll r.codings r.content with
    | .error f, _ => .fault (.encoding f)
    | .ok (), .error f => .raised "DecodingError" ("Error -3 while decompressing data: " ++ f.text)
    | .ok (), .ok content => accept address { r with content }

/-- What has to hold before a request is sent: an address, a body and an open session. -/
def Request.check (session : Session) (q : Request) : Except Fault Address := do
  let address ← Address.ofRequest q.url
  checkBody q.body
  if session = .closed then throw (.session .sendWhenClosed)
  return address

/-- What comes back for a request with a given outcome, and the session afterwards. A session that
passes a request on is opened, also where the host then turns out to have no name. -/
def transmit (session : Session) (q : Request) (outcome : Outcome) : Session × Delivery :=
  match q.check session with
  | .error f => (session, .fault f)
  | .ok address =>
    match address.checkHost with
    | .error f => (.opened, .fault f)
    | .ok () => (.opened, deliver address outcome)

end DocSpace.Http
