set_option autoImplicit false

namespace DocSpace.Text

structure Row where
  start : Nat
  characters : String

/-- Rows with their characters by number. -/
abbrev Rows := List (Nat × Array Char)

namespace Rows

def ofList (rows : List Row) : Rows := rows.map fun r => (r.start, r.characters.toList.toArray)

def get? (rows : Rows) (code : Nat) : Option Char :=
  rows.findSome? fun r => if r.1 ≤ code then r.2[code - r.1]? else none

/-- Whether a character is in one of the rows. -/
def marks (rows : Rows) : Array Bool :=
  rows.foldl (fun marks r => r.2.foldl (fun marks c => marks.setIfInBounds c.toNat true) marks)
    (Array.replicate 0x10000 false)

end Rows

end DocSpace.Text
