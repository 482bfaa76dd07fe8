import DocSpace.Http.Label

set_option autoImplicit false

namespace DocSpace.Http

def isDot (c : Char) : Bool := c == '.' || c == '\u3002' || c == '\uff0e' || c == '\uff61'

/-- The labels of a name; there is one more than there are dots. -/
def labels : List Char → List (List Char)
  | [] => [[]]
  | c :: cs =>
    if isDot c then [] :: labels cs
    else
      match labels cs with
      | [] => [[c]]
      | l :: ls => (c :: l) :: ls

/-- A name that ends with a dot may be longer by it. -/
def maxName (endsWithDot : Bool) : Nat := if endsWithDot then 254 else 253

/-- The labels of a name without the empty one at the end, and whether there was one. -/
def splitName (cs : List Char) : Except NameFault (List (List Char) × Bool) :=
  if maxName true < cs.length then .error .nameTooLong
  else
    let ls := labels cs
    if ls = [[]] then .error .emptyName
    else if ls.getLast? = some [] then .ok (ls.dropLast, true)
    else .ok (ls, false)

def asciiName (cs : List Char) : Except NameFault (List Char) := do
  let (ls, endsWithDot) ← splitName cs
  let forms ← ls.mapM asciiLabel
  let form := List.intercalate ['.'] (forms ++ if endsWithDot then [[]] else [])
  if maxName endsWithDot < form.length then throw .nameTooLong
  return form

def readName (cs : List Char) : Except NameFault (List (List Nat)) := do
  (← splitName cs).1.mapM readLabel

/-- Hosts that start with the mark of an ASCII form have to stand for a name. -/
def checkHost (host : List Char) : Except NameFault Unit := do
  if formMark.isPrefixOf host then
    let _ ← readName host

end DocSpace.Http
