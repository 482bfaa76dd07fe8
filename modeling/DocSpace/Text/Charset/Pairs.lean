import DocSpace.Text.Charset.Row
import DocSpace.Text.Encoding

set_option autoImplicit false

namespace DocSpace.Text

/-- The character that bytes start with, and how many bytes it takes; bytes that start none give
the replacement. -/
abbrev CharReader := List UInt8 → Char × Nat

def pairCode (first second : Nat) : Nat := 0x100 * first + second

def asciiChar? (b : Nat) : Option Char := if b < 0x80 then some (Char.ofNat b) else none

/-- Reads single bytes, and pairs of bytes by their code. A byte that starts no pair is alone. -/
def readPair (single? pair? : Nat → Option Char) : CharReader
  | [] => (replacement, 1)
  | b :: bs =>
    match single? b.toNat, bs with
    | some c, _ => (c, 1)
    | none, [] => (replacement, 1)
    | none, t :: _ =>
      match pair? (pairCode b.toNat t.toNat) with
      | some c => (c, 2)
      | none => (replacement, 1)

/-- A reader takes a byte at least, so the number of bytes is fuel enough. -/
def readCharsFrom (read : CharReader) : Nat → List UInt8 → List Char
  | 0, _ | _, [] => []
  | fuel + 1, bs =>
    let (c, size) := read bs
    c :: readCharsFrom read fuel (bs.drop size)

def readChars (read : CharReader) (bs : List UInt8) : String :=
  String.ofList (readCharsFrom read bs.length bs)

/-- Columns of a row of pairs: the second bytes in ranges, counted through. -/
def columnIn (ranges : List (Nat × Nat)) (second : Nat) : Option Nat :=
  match ranges with
  | [] => none
  | (low, high) :: ranges =>
    if low ≤ second ∧ second ≤ high then some (second - low)
    else (columnIn ranges second).map (· + (high + 1 - low))

def widthOf (ranges : List (Nat × Nat)) : Nat := ranges.foldl (fun n r => n + (r.2 + 1 - r.1)) 0

/-- A block of pairs that hold characters one after another, `before` of them in earlier blocks. -/
structure Block where
  firstBytes : Nat × Nat
  secondBytes : List (Nat × Nat)
  before : Nat

def Block.place? (block : Block) (code : Nat) : Option Nat :=
  let (low, high) := block.firstBytes
  let first := code / 0x100
  if low ≤ first ∧ first ≤ high then
    (columnIn block.secondBytes (code % 0x100)).map
      (block.before + widthOf block.secondBytes * (first - low) + ·)
  else none

end DocSpace.Text
