import DocSpace.Fault
import DocSpace.Text.Identifier

set_option autoImplicit false

namespace DocSpace

open Text

/-- `earlier` are the names before. -/
def checkFieldName (earlier : List String) (name : String) : Except Fault Unit :=
  if !isIdentifier name then .error (.field name .notAName)
  else if isKeyword name then .error (.field name .keyword)
  else if earlier.contains name then .error (.field name .duplicate)
  else .ok ()

def checkFieldNamesAfter (earlier : List String) : List String → Except Fault Unit
  | [] => .ok ()
  | name :: names => do
    checkFieldName earlier name
    checkFieldNamesAfter (name :: earlier) names

def checkFieldNames (names : List String) : Except Fault Unit := checkFieldNamesAfter [] names

end DocSpace
