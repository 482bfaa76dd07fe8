import DocSpace.Fault
import DocSpace.Json.Quoting

set_option autoImplicit false

namespace DocSpace.Json

open Number Text

/-- Choices of a writer. `standIn` gives the text in place of what JSON has no form for; without
it such a value is refused. -/
structure Style where
  asciiOnly : Bool
  itemSeparator : String
  keySeparator : String
  allowsNotFinite : Bool
  standIn : Option (Value → String)

def encodeDouble (style : Style) (d : Double) : Except Fault String :=
  match d with
  | .finite _ _ _ => .ok (doubleText .document d)
  | .infinite _ | .notANumber =>
    if style.allowsNotFinite then .ok (doubleText .document d) else .error .notFinite

def encodeBool (b : Bool) : String := if b then "true" else "false"

def keyText (style : Style) : Value → Except Fault String
  | .null => .ok "null"
  | .bool b => .ok (encodeBool b)
  | .int i => .ok (intText i)
  | .intMember _ _ i => .ok (intText i)
  | .double d => encodeDouble style d
  | .text s => .ok s
  | .textMember _ _ s => .ok s
  | k => .error (.keyNotEncodable k.qualifiedTypeName)

def encodeOther (style : Style) (v : Value) : Except Fault String :=
  match style.standIn with
  | some f => .ok (encodeText style.asciiOnly (f v))
  | none => .error (.notEncodable v.typeName)

mutual

def encode (style : Style) : Value → Except Fault String
  | .null => .ok "null"
  | .bool b => .ok (encodeBool b)
  | .int i => .ok (intText i)
  | .intMember _ _ i => .ok (intText i)
  | .double d => encodeDouble style d
  | .text s => .ok (encodeText style.asciiOnly s)
  | .textMember _ _ s => .ok (encodeText style.asciiOnly s)
  | .list vs => do return "[" ++ joined style.itemSeparator (← encodeItems style vs) ++ "]"
  | .tuple vs => do return "[" ++ joined style.itemSeparator (← encodeItems style vs) ++ "]"
  | .dict es => do
    return Value.braced (joined style.itemSeparator (← encodeEntries style es))
  | v => encodeOther style v

def encodeItems (style : Style) : List Value → Except Fault (List String)
  | [] => .ok []
  | v :: vs => do
    let s ← encode style v
    return s :: (← encodeItems style vs)

def encodeEntries (style : Style) : List (Value × Value) → Except Fault (List String)
  | [] => .ok []
  | (k, v) :: es => do
    let key := encodeText style.asciiOnly (← keyText style k)
    let s ← encode style v
    return (key ++ style.keySeparator ++ s) :: (← encodeEntries style es)

end

/-- Reports: everything has a text, and only controls are escaped. -/
def reportStyle : Style := ⟨false, ", ", ": ", true, some Value.plain⟩

/-- Log lines: everything has a text, and the line is ASCII. -/
def logStyle : Style := ⟨true, ", ", ": ", true, some Value.display⟩

/-- Request bodies: no blanks, and nothing that JSON has no form for. -/
def bodyStyle : Style := ⟨false, ",", ":", false, none⟩

end DocSpace.Json
