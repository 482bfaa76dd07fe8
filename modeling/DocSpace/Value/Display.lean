import DocSpace.Text.Pieces
import DocSpace.Text.Quoted
import DocSpace.Value.Basic

set_option autoImplicit false

namespace DocSpace.Value

open Number Text

def call (name : String) (arguments : List String) : String :=
  name ++ "(" ++ joined ", " arguments ++ ")"

def angled (s : String) : String := "<" ++ s ++ ">"

def braced (s : String) : String := "\x7b" ++ s ++ "\x7d"

def memberName (enum name : String) : String := enum ++ "." ++ name

def typePath (name : String) : String :=
  if name = "date" ∨ name = "datetime" then "datetime." ++ name else name

def ownTypes : List String := ["Record", mappingType]

def displayType (name : String) : String :=
  if name = enumType then angled ("enum '" ++ name ++ "'")
  else if name = anyType then "typing." ++ name
  else if ownTypes.contains name then angled ("class '__main__." ++ name ++ "'")
  else angled ("class '" ++ typePath name ++ "'")

mutual

/-- The form inside another value. -/
def display : Value → String
  | null => "None"
  | bool b => if b then "True" else "False"
  | int i => intText i
  | double d => doubleText .plain d
  | text s => quoted s
  | bytes bs => quotedBytes bs
  | day d => call "datetime.date" (d.parts.map natText)
  | moment m => call "datetime.datetime" (m.parts.map natText)
  | list vs => "[" ++ joined ", " (displayItems vs) ++ "]"
  | tuple [v] => "(" ++ display v ++ ",)"
  | tuple vs => "(" ++ joined ", " (displayItems vs) ++ ")"
  | dict es => braced (joined ", " (displayEntries es))
  | member e n v => angled (memberName e n ++ ": " ++ display v)
  | textMember e n s => angled (memberName e n ++ ": " ++ quoted s)
  | intMember e n i => angled (memberName e n ++ ": " ++ intText i)
  | record n fs => call n (displayFields fs)
  | type n => displayType n

def displayItems : List Value → List String
  | [] => []
  | v :: vs => display v :: displayItems vs

def displayEntries : List (Value × Value) → List String
  | [] => []
  | (k, v) :: es => (display k ++ ": " ++ display v) :: displayEntries es

def displayFields : List (String × Value) → List String
  | [] => []
  | (k, v) :: fs => (k ++ "=" ++ display v) :: displayFields fs

end

/-- The form on its own. -/
def plain : Value → String
  | text s => s
  | day d => d.text
  | moment m => m.text
  | member e n _ => memberName e n
  | textMember e n _ => memberName e n
  | intMember e n _ => memberName e n
  | v => v.display

end DocSpace.Value
