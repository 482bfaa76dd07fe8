import DocSpace.Calendar

set_option autoImplicit false

namespace DocSpace

/-- Members of an enumeration come in three forms: one that only names its value, and two that
are themselves a text or a whole number. -/
inductive Value where
  | null
  | bool (b : Bool)
  | int (i : Int)
  | double (d : Double)
  | text (s : String)
  | bytes (bs : List UInt8)
  | day (d : Day)
  | moment (m : Moment)
  | list (items : List Value)
  | tuple (items : List Value)
  | dict (entries : List (Value × Value))
  | member (enum name : String) (value : Value)
  | textMember (enum name value : String)
  | intMember (enum name : String) (value : Int)
  | record (name : String) (fields : List (String × Value))
  | type (name : String)

namespace Value

instance : Inhabited Value := ⟨null⟩

/-- Types that are more than plain classes: an enumeration, a dictionary with declared keys, and
the type of anything. -/
def enumType : String := "Color"

def mappingType : String := "Nested"

def anyType : String := "Any"

def enumMembers : List Value := [member enumType "RED" (text "red")]

def metatypeName (name : String) : String :=
  if name = enumType then "EnumType"
  else if name = mappingType then "_TypedDictMeta"
  else if name = anyType then "_AnyMeta"
  else "type"

def typeName : Value → String
  | null => "NoneType"
  | bool _ => "bool"
  | int _ => "int"
  | double _ => "float"
  | text _ => "str"
  | bytes _ => "bytes"
  | day _ => "date"
  | moment _ => "datetime"
  | list _ => "list"
  | tuple _ => "tuple"
  | dict _ => "dict"
  | member enum _ _ => enum
  | textMember enum _ _ => enum
  | intMember enum _ _ => enum
  | record name _ => name
  | type name => metatypeName name

/-- The type's name with its module, where it is not one of the common types. -/
def qualifiedTypeName (v : Value) : String :=
  match v with
  | day _ | moment _ => "datetime." ++ v.typeName
  | _ => v.typeName

/-- Empty and zero values are false, and so is `null`. -/
def truthy : Value → Bool
  | null => false
  | bool b => b
  | int i => i != 0
  | double d => !d.isZero
  | text s => s != ""
  | bytes bs => !bs.isEmpty
  | list items => !items.isEmpty
  | tuple items => !items.isEmpty
  | dict entries => !entries.isEmpty
  | textMember _ _ s => s != ""
  | intMember _ _ i => i != 0
  | day _ | moment _ | member _ _ _ | record _ _ | type _ => true

/-- The text that a value is, members of text enumerations included. -/
def asText? : Value → Option String
  | text s => some s
  | textMember _ _ s => some s
  | _ => none

def orElse (v w : Value) : Value := if v.truthy then v else w

def isNull : Value → Bool
  | null => true
  | _ => false

end Value

end DocSpace
