import DocSpace.Fault
import DocSpace.Http.Host
import DocSpace.Number.Numeral

set_option autoImplicit false

namespace DocSpace.Http

open Text

structure Split where
  scheme : List Char
  authority : List Char
  path : List Char
  query : Option (List Char)
  fragment : Option (List Char)

structure Address where
  scheme : List Char
  user : List Char
  host : List Char
  port : Option Int
  path : List Char
  query : Option (List Char)
  fragment : Option (List Char)

/-- Cuts at the first `sep`: what is before it, and what is after it if there is one. -/
def cutAt (sep : Char) (cs : List Char) : List Char × Option (List Char) :=
  match cs.dropWhile (· ≠ sep) with
  | [] => (cs, none)
  | _ :: rest => (cs.takeWhile (· ≠ sep), some rest)

def isSchemeChar (c : Char) : Bool :=
  c.isAlphanum || c == '+' || c == '.' || c == '-'

/-- The scheme, which may be empty, before a colon, and the rest. -/
def splitScheme (cs : List Char) : List Char × List Char :=
  let scheme := cs.takeWhile isSchemeChar
  match cs.drop scheme.length with
  | ':' :: rest =>
    if scheme.isEmpty || scheme.head?.any Char.isAlpha then (scheme, rest) else ([], cs)
  | _ => ([], cs)

def splitAuthority : List Char → List Char × List Char
  | '/' :: '/' :: cs =>
    let ends (c : Char) : Bool := c == '/' || c == '?' || c == '#'
    (cs.takeWhile (!ends ·), cs.dropWhile (!ends ·))
  | cs => ([], cs)

def split (cs : List Char) : Split :=
  let (scheme, rest) := splitScheme cs
  let (authority, rest) := splitAuthority rest
  let (rest, fragment) := cutAt '#' rest
  let (path, query) := cutAt '?' rest
  ⟨scheme, authority, path, query, fragment⟩

def isVisibleBut (excluded : String) (c : Char) : Bool :=
  0x20 ≤ c.toNat && c.toNat < 0x7f && !excluded.toList.contains c

def isFragmentSafe : Char → Bool := isVisibleBut " \"<>`"

def isQuerySafe : Char → Bool := isVisibleBut " \"#<>"

def isPathSafe : Char → Bool := isVisibleBut " \"#<>?`\x7b\x7d"

def isUserSafe : Char → Bool := isVisibleBut " \"#<>?`\x7b\x7d/;=@[\\]^|"

/-- The last at sign ends the user. -/
def splitUser (cs : List Char) : List Char × List Char :=
  if cs.contains '@' then
    let host := (cs.reverse.takeWhile (· ≠ '@')).reverse
    (cs.take (cs.length - host.length - 1), host)
  else ([], cs)

/-- The host, which may stand in brackets, and the port after it. -/
def splitPort (cs : List Char) : List Char × List Char :=
  let host :=
    if cs.head? = some '[' ∧ cs.contains ']' then
      cs.take (cs.length - (cs.reverse.takeWhile (· ≠ ']')).length)
    else cs.takeWhile (· ≠ ':')
  match cs.drop host.length with
  | ':' :: port => (host, port)
  | port => (host, port)

def usualPorts : List (String × Int) :=
  [("ftp", 21), ("http", 80), ("https", 443), ("ws", 80), ("wss", 443)]

def readPort (scheme port : List Char) : Except String (Option Int) :=
  if port.isEmpty then .ok none
  else
    match Number.readInt (String.ofList port) with
    | .ok n => .ok (if usualPorts.lookup (String.ofList scheme) = some n then none else some n)
    | .error _ => .error ("Invalid port: " ++ quoted (String.ofList port))

/-- Steps of a path after `done`, which are in reverse order. -/
def walk (done : List (List Char)) : List (List Char) → List (List Char)
  | [] => done.reverse
  | step :: steps =>
    if step = ['.'] then walk done steps
    else if step = ['.', '.'] then
      walk (if done = [[]] then done else done.tail) steps
    else walk (step :: done) steps

def normalizePath (path : List Char) : List Char :=
  let steps := pieces '/' path
  if steps.contains ['.'] || steps.contains ['.', '.'] then
    List.intercalate ['/'] (walk [] steps)
  else path

def pathRefusal? (path : List Char) (hasScheme hasAuthority : Bool) : Option String :=
  if hasAuthority then
    if path.isEmpty || path.head? = some '/' then none
    else some "For absolute URLs, path must be empty or begin with '/'"
  else if hasScheme then none
  else if ['/', '/'].isPrefixOf path then
    some "Relative URLs cannot have a path starting with '//'"
  else if path.head? = some ':' then some "Relative URLs cannot have a path starting with ':'"
  else none

def form (s : Split) : Except String Address := do
  let (user, rest) := splitUser s.authority
  let (host, port) := splitPort rest
  let host ← encodeHost host
  let port ← readPort s.scheme port
  let hasScheme := !s.scheme.isEmpty
  let hasAuthority := !user.isEmpty || !host.isEmpty || port.isSome
  if let some message := pathRefusal? s.path hasScheme hasAuthority then throw message
  let path := if hasScheme || hasAuthority then normalizePath s.path else s.path
  return {
    scheme := s.scheme.map Char.toLower
    user := escape isUserSafe user
    host := host
    port := port
    path := escape isPathSafe path
    query := s.query.map (escape isQuerySafe)
    fragment := s.fragment.map (escape isFragmentSafe) }

def maxLength : Nat := 65536

def isControl (c : Char) : Bool := c.toNat < 0x20 || c.toNat == 0x7f

/-- The address that a text names, or why it names none. -/
def Address.ofText (s : String) : Except String Address :=
  let cs := s.toList
  if maxLength < cs.length then .error "URL too long"
  else
    match cs.find? isControl with
    | some c =>
      .error ("Invalid non-printable ASCII character in URL, " ++ quoted c.toString ++
        " at position " ++ Number.natText (cs.takeWhile (· ≠ c)).length ++ ".")
    | none => form (split cs)

namespace Address

def isAbsolute (a : Address) : Bool := !a.scheme.isEmpty && !a.host.isEmpty

/-- An address that is not absolute keeps its path, from a single slash on, and its query. -/
def rooted (a : Address) : Address :=
  if a.isAbsolute then a
  else ⟨[], [], [], none, '/' :: a.path.dropWhile (· = '/'), a.query, none⟩

def authority (a : Address) : List Char :=
  (if a.user.isEmpty then [] else a.user ++ ['@']) ++
    (if a.host.contains ':' then '[' :: a.host ++ [']'] else a.host) ++
    match a.port with
    | none => []
    | some n => ':' :: (Number.intText n).toList

def marked (mark : Char) : Option (List Char) → List Char
  | none => []
  | some cs => mark :: cs

def text (a : Address) : String :=
  let authority := a.authority
  String.ofList ((if a.scheme.isEmpty then [] else a.scheme ++ [':']) ++
    (if authority.isEmpty then [] else '/' :: '/' :: authority) ++
    a.path ++ marked '?' a.query ++ marked '#' a.fragment)

def ofRequest (s : String) : Except Fault Address :=
  ((ofText s).map rooted).mapError .invalidUrl

end Address

end DocSpace.Http
