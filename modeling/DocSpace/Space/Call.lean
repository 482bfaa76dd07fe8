import DocSpace.Http.Exchange
import DocSpace.Mutation
import DocSpace.Space.Document
import DocSpace.Space.Model

set_option autoImplicit false

namespace DocSpace

open Http Query

inductive Call where
  | get (id : Value)
  | getList (options : Option ListOptions)
  | getFirst (options : Option ListOptions)
  | create (document : Value)
  | update (document : Value)
  | delete (id : Value)

/-- A response, or the document that a call asks for. -/
inductive Reply where
  | response (r : Response)
  | document (v : Value)

namespace Call

/-- Options of a list with at most one document, whatever page they named. -/
def firstOptions (options : Option ListOptions) : ListOptions :=
  let query := (options.map (·.toQueryOptions)).getD .empty
  query.withPagination (some ⟨.null, .int 1⟩)

def identifier : Value := .text Schema.identifier

/-- A change of the document that the identifier names, without the identifier. -/
def prepareUpdate (m : Model) (fields : Entries) : Except Fault Request :=
  match fields.get? identifier with
  | some id => .ok ⟨.patch, m.url id, some (.dict (fields.erase identifier))⟩
  | none => .error (.missingKey identifier)

def prepare (m : Model) : Call → Except Failure Request
  | get id => .ok ⟨.get, m.url id, none⟩
  | getList options => do return ⟨.get, ← m.listUrl options, none⟩
  | getFirst options => do return ⟨.get, ← m.listUrl (some (firstOptions options)), none⟩
  | create document => do
    return ⟨.post, m.collectionUrl, some (.dict (← Document.fields document))⟩
  | update document => do prepareUpdate m (← Document.fields document)
  | delete id => .ok ⟨.delete, m.url id, none⟩

/-- The first part of a value, as far as it has parts by number; an empty list has none. -/
def firstOf : Value → Except Fault Value
  | .list [] => .ok .null
  | .list (v :: _) => .ok v
  | .text s =>
    match s.toList with
    | [] => .error (.indexOutOfRange "string")
    | c :: _ => .ok (.text c.toString)
  | .dict _ => .error (.missingKey (.int 0))
  | v => .error (.notSubscriptable v.qualifiedTypeName)

/-- What a call makes of its response. -/
def reply : Call → Response → Except Failure Reply
  | getFirst _, r => do return .document (← firstOf (← r.document))
  | _, r => .ok (.response r)

def loggerName : String := "dokuflow.client.model"

def requestEvent (q : Request) : Log.Event where
  logger := loggerName
  level := .debug
  name := "dokuflow.request"
  values := [("method", .text q.method.name), ("url", .text (Redaction.hideKey q.url))]

/-- The request is logged before it is sent. -/
def perform (session : Session) (m : Model) (c : Call) (outcome : Outcome) : Trace Reply :=
  match c.prepare m with
  | .error f => .silent session (.error f)
  | .ok q => ((exchange session q outcome).logFirst (requestEvent q)).andThen c.reply

end Call

def MutationResponse.ofResponse (r : Response) : Except Fault MutationResponse := do
  ofPayload (← r.document)

end DocSpace
