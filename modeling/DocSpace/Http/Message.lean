import DocSpace.Http.Address
import DocSpace.Http.ContentCoding
import DocSpace.Http.MediaType
import DocSpace.Http.Status
import DocSpace.Json.Decode

set_option autoImplicit false

namespace DocSpace.Http

open Text

inductive Method where
  | get | post | patch | delete
  deriving DecidableEq

def Method.name : Method → String
  | get => "GET"
  | post => "POST"
  | patch => "PATCH"
  | delete => "DELETE"

structure Request where
  method : Method
  url : String
  body : Option Value

structure Response where
  status : Nat
  content : List UInt8
  headers : List (String × String)

def timeouts : List String :=
  ["TimeoutException", "ConnectTimeout", "ReadTimeout", "WriteTimeout", "PoolTimeout"]

/-- Classes of the errors of HTTP. An error of any other class is none of them. -/
def httpErrors : List String :=
  timeouts ++
    ["HTTPError", "HTTPStatusError", "RequestError", "TooManyRedirects", "DecodingError",
      "TransportError", "UnsupportedProtocol", "ProxyError",
      "NetworkError", "ConnectError", "ReadError", "WriteError", "CloseError",
      "ProtocolError", "LocalProtocolError", "RemoteProtocolError"]

/-- What becomes of a request on its way: a response, an error of one of the transport's own
classes, or any other fault. -/
inductive Outcome where
  | response (r : Response)
  | raised (label message : String)
  | broken (f : Fault) (other : f.label ∉ httpErrors)

namespace Response

def ofText (status : Nat) (text : String) (headers : List (String × String)) : Response :=
  ⟨status, text.toUTF8.toList, headers⟩

/-- A header's value; names count in any letter case, and of several values none is lost. -/
def header? (r : Response) (name : String) : Option String :=
  match (r.headers.filter fun h => lower h.1 == name).map (·.2) with
  | [] => none
  | values => some (joined ", " values)

def location? (r : Response) : Option String :=
  if isRedirect r.status then r.header? "location" else none

def text (r : Response) : Except Fault String :=
  ((charsetOf (r.header? "content-type")).decode r.content).mapError .encoding

def document (r : Response) : Except Fault Value := Json.decodeBytes r.content

def codings (r : Response) : List ContentCoding :=
  ContentCoding.ofList ((r.header? "content-encoding").getD "")

def checkHeaders (r : Response) : Except EncodingFault Unit :=
  r.headers.forM fun (name, value) => do
    let _ ← asciiBytes name
    let _ ← asciiBytes value

/-- Text of the error that a status outside the successes is. -/
def statusText (r : Response) (address : Address) : String :=
  let status := Number.natText r.status
  joined "\n" <|
    [className r.status ++ " '" ++ status ++ " " ++ phrase r.status ++ "' for url '" ++
      address.text ++ "'"]
    ++ (r.location?.map fun l => "Redirect location: '" ++ l ++ "'").toList
    ++ ["For more information check: https://developer.mozilla.org/en-US/docs/Web/HTTP/Status/"
      ++ status]

end Response

end DocSpace.Http
