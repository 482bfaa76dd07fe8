import DocSpace.Fault
import DocSpace.Value.Basic

set_option autoImplicit false

namespace DocSpace

/-- An abstract class names the classes of its instances. No value here is of one of the
`other` classes. -/
inductive ClassType where
  | text | int | double | bool | list | dict | tuple | bytes | object | type | day | moment | null
  | enum (name : String)
  | record (name : String)
  | abstract (name : String) (classes : List String)
  | other (name : String)
  deriving DecidableEq

namespace ClassType

def name : ClassType → String
  | text => "str"
  | int => "int"
  | double => "float"
  | bool => "bool"
  | list => "list"
  | dict => "dict"
  | tuple => "tuple"
  | bytes => "bytes"
  | object => "object"
  | type => "type"
  | day => "date"
  | moment => "datetime"
  | null => "NoneType"
  | enum name => name
  | record name => name
  | abstract name _ => name
  | other name => name

/-- Truth values are no numbers here, and a whole number may stand for a floating point one. -/
def accepts : ClassType → Value → Bool
  | _, .null => true
  | object, _ => true
  | text, .text _ | text, .textMember _ _ _ => true
  | int, .int _ | int, .intMember _ _ _ => true
  | double, .int _ | double, .intMember _ _ _ | double, .double _ => true
  | bool, .bool _ => true
  | list, .list _ => true
  | dict, .dict _ => true
  | tuple, .tuple _ => true
  | bytes, .bytes _ => true
  | type, .type _ => true
  | day, .day _ | day, .moment _ => true
  | moment, .moment _ => true
  | enum n, .member e _ _ => n == e
  | enum n, .textMember e _ _ => n == e
  | enum n, .intMember e _ _ => n == e
  | record n, .record m _ => n == m
  | abstract _ classes, v => classes.contains v.typeName
  | _, _ => false

end ClassType

/-- `remarked` is a class with a remark beside it, `mapping` a dictionary with declared keys, and
`items` a list with a type for its items. -/
inductive Hint where
  | plain (c : ClassType)
  | remarked (c : ClassType)
  | any
  | mapping (name : String)
  | items (shown : String)
  | classVariable (shown : String)
  | unchecked (shown : String)
  deriving DecidableEq

namespace Hint

def bare : Hint → Hint
  | remarked c => plain c
  | h => h

def shown : Hint → String
  | plain c | remarked c => "class " ++ c.name
  | any => "class Any"
  | mapping name => "class " ++ name
  | items shown | classVariable shown | unchecked shown => shown

def named : List (String × Hint) := [
  ("str", plain .text), ("int", plain .int), ("float", plain .double), ("bool", plain .bool),
  ("list", plain .list), ("dict", plain .dict), ("tuple", plain .tuple), ("bytes", plain .bytes),
  ("object", plain .object), ("date", plain .day), ("datetime", plain .moment),
  ("None", plain .null), ("Color", plain (.enum "Color")), ("Record", plain (.record "Record")),
  ("Annotated[int, 'x']", remarked .int), ("Required[int]", remarked .int),
  ("NotRequired[int]", remarked .int), ("Any", any), ("Nested", mapping "Nested"),
  ("list[str]", items "list[str]"), ("dict[str, int]", unchecked "dict[str, int]"),
  ("int | None", unchecked "int | None"), ("List[int]", items "typing.List[int]"),
  ("Optional[str]", unchecked "typing.Optional[str]"),
  ("Optional[int]", unchecked "typing.Optional[int]"),
  ("Union[int, str]", unchecked "typing.Union[int, str]"),
  ("Literal['a', 'b']", unchecked "typing.Literal['a', 'b']"),
  ("ClassVar[int]", classVariable "typing.ClassVar[int]"), ("NewInt", unchecked "NewInt")]

def ofName? (name : String) : Option Hint := named.lookup name

end Hint

/-- A declaration gives its type, or the text of an expression for it. `beyond` is what the
expression stands for where it has words that are unknown here. -/
inductive Annotation where
  | hint (h : Hint)
  | source (s : String) (beyond : Except Fault Hint := .ok (.unchecked s))

end DocSpace
