import DocSpace.Hint
import DocSpace.Value.Display

set_option autoImplicit false

namespace DocSpace

inductive Meaning where
  | null
  | bool (b : Bool)
  | whole (i : Int)
  | double (d : Double)
  | text (s : String)
  | bytes (bs : List UInt8)
  | tuple (items : List Meaning)
  | list (items : List Meaning)
  | set (items : List Meaning)
  | dict (entries : List (Meaning × Meaning))
  | slice (start stop step : Meaning)
  | plain (c : ClassType)
  /-- A class with types in brackets. -/
  | generic (c : ClassType) (arguments : List Meaning)
  /-- One type out of several. -/
  | union (members : List Meaning)
  /-- The types that a class has in brackets, among others. -/
  | unpacked (m : Meaning)
  /-- A method or an attribute that values of a class have. -/
  | descriptor (kind name owner : String)
  | function (name : String)
  | constant (name type : String)

namespace Meaning

open Number Text

instance : Inhabited Meaning := ⟨null⟩

def ellipsis : Meaning := constant "Ellipsis" "ellipsis"

/-- Empty and zero values are false, and so is `null`. -/
def truthy : Meaning → Bool
  | null => false
  | bool b => b
  | whole i => i != 0
  | double d => !d.isZero
  | text s => s != ""
  | bytes bs => !bs.isEmpty
  | tuple ms | list ms | set ms => !ms.isEmpty
  | dict es => !es.isEmpty
  | slice _ _ _ | plain _ | generic _ _ | union _ | unpacked _ | descriptor _ _ _ | function _
  | constant _ _ => true

def classOf : Meaning → ClassType
  | null => .null
  | bool _ => .bool
  | whole _ => .int
  | double _ => .double
  | text _ => .text
  | bytes _ => .bytes
  | tuple _ => .tuple
  | list _ => .list
  | set _ => .other "set"
  | dict _ => .dict
  | slice _ _ _ => .other "slice"
  | plain _ => .type
  | generic _ _ | unpacked _ => .other "GenericAlias"
  | descriptor kind _ _ => .other ((if kind = "attribute" then "getset" else kind) ++ "_descriptor")
  | union _ => .other "UnionType"
  | function _ => .other "builtin_function_or_method"
  | constant _ type => .other type

/-- Name of a value's class; classes of types come with their module. -/
def typeName (m : Meaning) : String :=
  match m with
  | generic _ _ | union _ | unpacked _ => "types." ++ m.classOf.name
  | _ => m.classOf.name

def bracketed (items : List String) : String := "[" ++ joined ", " items ++ "]"

mutual

def display : Meaning → String
  | null => "None"
  | bool b => if b then "True" else "False"
  | whole i => intText i
  | double d => doubleText .plain d
  | text s => quoted s
  | bytes bs => quotedBytes bs
  | tuple [m] => "(" ++ display m ++ ",)"
  | tuple ms => "(" ++ joined ", " (displays ms) ++ ")"
  | list ms => bracketed (displays ms)
  | set ms => Value.braced (joined ", " (displays ms))
  | dict es => Value.braced (joined ", " (displayEntries es))
  | slice a b c =>
    Value.call "slice" [display a, display b, display c]
  | plain c => Value.displayType c.name
  | generic c [] => c.name ++ "[()]"
  | generic c ms => c.name ++ bracketed (types ms)
  | union ms => joined " | " (alternatives ms)
  | unpacked m => "*" ++ display m
  | descriptor kind name owner =>
    Value.angled (kind ++ " '" ++ name ++ "' of '" ++ owner ++ "' objects")
  | function name => Value.angled ("built-in function " ++ name)
  | constant name _ => name

def displays : List Meaning → List String
  | [] => []
  | m :: ms => display m :: displays ms

def displayEntries : List (Meaning × Meaning) → List String
  | [] => []
  | (k, m) :: es => (display k ++ ": " ++ display m) :: displayEntries es

/-- The forms of values as parts of a type: a class by its name. -/
def types : List Meaning → List String
  | [] => []
  | plain c :: ms => c.name :: types ms
  | function name :: ms => name :: types ms
  | constant "Ellipsis" _ :: ms => "..." :: types ms
  | m :: ms => display m :: types ms

def alternatives : List Meaning → List String
  | [] => []
  | plain .null :: ms => "None" :: alternatives ms
  | plain c :: ms => c.name :: alternatives ms
  | m :: ms => display m :: alternatives ms

end

def toHint : Meaning → Hint
  | plain c => .plain c
  | m => .unchecked m.display

def isUnionable : Meaning → Bool
  | null | plain _ | generic _ _ | union _ => true
  | _ => false

def isNull : Meaning → Bool
  | null => true
  | _ => false

def members : Meaning → List Meaning
  | union ms => ms
  | null => [plain .null]
  | m => [m]

/-- Keeps the first of members that look the same. -/
def distinct : List Meaning → List Meaning
  | [] => []
  | m :: ms => m :: (distinct ms).filter fun n => n.display != m.display

def unionOf (ms : List Meaning) : Meaning :=
  match distinct (ms.flatMap members) with
  | [m] => m
  | ms => union ms

end Meaning

end DocSpace
