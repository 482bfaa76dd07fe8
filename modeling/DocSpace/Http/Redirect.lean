import DocSpace.Fault
import DocSpace.Http.Address
import DocSpace.Http.HostName
import DocSpace.Http.MediaType

set_option autoImplicit false

namespace DocSpace.Http

open Text

/-- Why a redirect leads nowhere. A location that cannot be read breaks the protocol. -/
inductive RedirectFault where
  | unreadable (message : String)
  | fault (f : Fault)

def RedirectFault.invalid (message : String) : RedirectFault := fault (.invalidUrl message)

def Address.checkHost (a : Address) : Except Fault Unit :=
  (Http.checkHost a.host).mapError .hostName

def Address.components (a : Address) : List (String × List Char) :=
  [("scheme", a.scheme), ("authority", a.authority), ("path", a.path),
    ("query", a.query.getD []), ("fragment", a.fragment.getD [])]

/-- A part that grows too long when it is escaped. -/
def Address.checkLengths (a : Address) : Except RedirectFault Unit :=
  match a.components.find? fun c => maxLength < c.2.length with
  | some (name, _) => .error (.invalid ("URL component '" ++ name ++ "' too long"))
  | none => .ok ()

/-- A location with a scheme but no host gets the request's, so its path has to be absolute. -/
def checkHostless (location : Address) : Except RedirectFault Unit := do
  location.checkLengths
  if let some message := pathRefusal? location.path true true then throw (.invalid message)

def fragmentText (fragment : List Char) : List Char :=
  (Encoding.utf8.decodeReplacing
    (percentDecode String.utf8EncodeChar fragment)).toList

/-- The request's fragment, which the location takes, holds no controls. -/
def checkInherited (location : Address) (fragment : List Char) : Except RedirectFault Unit := do
  location.checkLengths
  match fragment.find? isControl with
  | some c =>
    throw (.invalid ("Invalid non-printable ASCII character in URL fragment component, " ++
      quoted c.toString ++ " at position " ++
      Number.natText (fragment.takeWhile (· ≠ c)).length ++ "."))
  | none => return ()

/-- A location that says nothing stands for the request's address, its fragment included. -/
def Address.isSilent (a : Address) : Bool := a.text.isEmpty

def checkRedirect (request : Address) (location : String) : Except RedirectFault Unit := do
  let target ← (Address.ofText location).mapError .unreadable
  let checkTargetHost : Except RedirectFault Unit := target.checkHost.mapError .fault
  if !target.scheme.isEmpty then
    checkTargetHost
    if target.host.isEmpty then checkHostless target
  let inherited := fragmentText (request.fragment.getD [])
  if !inherited.isEmpty && (target.fragment.getD []).isEmpty && !target.isSilent then
    checkInherited target inherited
  checkTargetHost

end DocSpace.Http
