import DocSpace.Text.LetterCase.Table
import DocSpace.Text.Ranges

set_option autoImplicit false

namespace DocSpace.Text

def shifted? (runs : Array CaseRun) (c : Char) : Option Char :=
  (runs.findSome? fun r => r.apply? c.toNat).map Char.ofNat

/-- The letter on its own, away from any word. -/
def lowerChar (c : Char) : List Char :=
  if c.toNat < 0x80 then [c.toLower]
  else if c = 'İ' then ['i', '\u0307']
  else [(shifted? lowerRuns c).getD c]

def upperChar (c : Char) : List Char :=
  if c.toNat < 0x80 then [c.toUpper]
  else
    match upperExpansions.find? fun e => e.1 == c.toNat with
    | some e => e.2.map Char.ofNat
    | none => [(shifted? upperRuns c).getD c]

/-- Whether the nearest character that is not passed over has case. -/
def meetsCased (cs : List Char) : Bool :=
  match cs.find? fun c => !inRanges passedRanges c.toNat with
  | some c => inRanges casedRanges c.toNat
  | none => false

/-- Lower case of `cs` after the characters `before`, nearest first. -/
def lowerAfter (before : List Char) : List Char → List Char
  | [] => []
  | c :: cs =>
    (if c = 'Σ' then [if meetsCased before && !meetsCased cs then 'ς' else 'σ'] else lowerChar c)
      ++ lowerAfter (c :: before) cs

def lower (s : String) : String := String.ofList (lowerAfter [] s.toList)

def upper (s : String) : String := String.ofList (s.toList.flatMap upperChar)

end DocSpace.Text
