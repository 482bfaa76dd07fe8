import DocSpace.Text.Charset.Pairs
import DocSpace.Text.Charset.Simplified.Table

set_option autoImplicit false

namespace DocSpace.Text.Simplified

def national : Rows := .ofList simplifiedRows

def extra : Rows := .ofList simplifiedExtraRows

def later : Rows := .ofList simplifiedLaterRows

def otherIdeographs : Array Char :=
  let marks := national.marks
  let points := (List.range 20902).map (0x4e00 + ·)
  ((points.filter fun n => !marks.getD n false).map Char.ofNat).toArray

def addedBlocks : List Block :=
  [⟨(0x81, 0xa0), [(0x40, 0x7e), (0x80, 0xfe)], 0⟩,
    ⟨(0xaa, 0xfe), [(0x40, 0x7e), (0x80, 0xa0)], 6080⟩]

def extended? (code : Nat) : Option Char :=
  extra.get? code <|> national.get? code <|>
    (addedBlocks.findSome? (·.place? code)).bind (otherIdeographs[·]?)

def private? (code : Nat) : Option Char :=
  (simplifiedPrivateRuns.find? fun r => r.1 ≤ code ∧ code < r.1 + r.2.2).map fun r =>
    Char.ofNat (r.2.1 + (code - r.1))

def later? (code : Nat) : Option Char := extended? code <|> later.get? code <|> private? code

/-- All characters of two bytes, by code point. -/
def laterMarks : Array Bool :=
  ((List.range 0x10000).filterMap later?).foldl
    (fun marks c => marks.setIfInBounds c.toNat true) (Array.replicate 0x10000 false)

def unpaired : Array Nat :=
  ((List.range 0x10000).filter fun n =>
    0x80 ≤ n && n.isValidChar && !laterMarks.getD n false).toArray

/-- Code points that four bytes stand for: first those that pairs lack, in order. -/
def fourBytePoint? (place : Nat) : Option Nat :=
  if 189000 ≤ place then
    let n := 0x10000 + (place - 189000)
    if n < 0x110000 then some n else none
  else unpaired[place]?

def isDigitByte (b : UInt8) : Bool := 0x30 ≤ b && b ≤ 0x39

def isLeadByte (b : UInt8) : Bool := 0x81 ≤ b && b ≤ 0xfe

def placeOfFour (a b c d : UInt8) : Nat :=
  (((a.toNat - 0x81) * 10 + (b.toNat - 0x30)) * 126 + (c.toNat - 0x81)) * 10 + (d.toNat - 0x30)

/-- A digit behind the first byte announces four bytes; too few of them are one fault. -/
def readLater : CharReader
  | a :: b :: bs =>
    if isLeadByte a && isDigitByte b then
      match bs with
      | c :: d :: _ =>
        if isLeadByte c && isDigitByte d then
          match fourBytePoint? (placeOfFour a b c d) with
          | some n => (Char.ofNat n, 4)
          | none => (replacement, 1)
        else (replacement, 1)
      | _ => (replacement, 2 + bs.length)
    else readPair asciiChar? later? (a :: b :: bs)
  | bs => readPair asciiChar? later? bs

end DocSpace.Text.Simplified
