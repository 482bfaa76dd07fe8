import DocSpace.Fault

set_option autoImplicit false

namespace DocSpace.Value

def methods : List (String × List String) :=
  [("str", ["lower", "upper", "rstrip"]), ("bytes", ["lower", "upper", "rstrip"]),
    ("dict", ["get", "items", "keys"])]

def methodOwner (type : String) : String := if type = mappingType then "dict" else type

def hasMethod (type method : String) : Bool :=
  ((methods.lookup type).getD []).contains method

/-- What a call of a method that the value lacks fails with. A type takes the first argument of the
call, if there is one, for the value. -/
def lacking (v : Value) (method : String) (argument? : Option String) : Fault :=
  match v with
  | type name =>
    let owner := methodOwner name
    if hasMethod owner method then
      match argument? with
      | none => .noReceiver owner method
      | some argument => .wrongReceiver owner method argument
    else if name = enumType then .noMember method
    else .noTypeAttribute (typePath name) method
  | v => .noAttribute v.qualifiedTypeName method

def textType : String := (text "").typeName

end DocSpace.Value
