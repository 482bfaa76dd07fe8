import DocSpace.Text.Charset.Japanese.Table
import DocSpace.Text.Charset.Pairs

set_option autoImplicit false

namespace DocSpace.Text.Japanese

def rows : Rows := .ofList japaneseRows

def extra : Rows := .ofList japaneseExtraRows

def supplement : Rows := .ofList japaneseSupplementRows

def narrow? (b : Nat) : Option Char :=
  if 0xa1 ≤ b ∧ b ≤ 0xdf then some (Char.ofNat (0xff61 + (b - 0xa1))) else none

def single? (b : Nat) : Option Char := asciiChar? b <|> narrow? b

/-- Bytes that stand alone in the extended set. -/
def loneBytes : List (Nat × Nat) :=
  [(0x80, 0x80), (0xa0, 0xf8f0), (0xfd, 0xf8f1), (0xfe, 0xf8f2), (0xff, 0xf8f3)]

def extendedSingle? (b : Nat) : Option Char := single? b <|> (loneBytes.lookup b).map Char.ofNat

def privateBlock : Block := ⟨(0xf0, 0xf9), [(0x40, 0x7e), (0x80, 0xfc)], 0xe000⟩

def extended? (code : Nat) : Option Char :=
  extra.get? code <|> rows.get? code <|> (privateBlock.place? code).map Char.ofNat

/-- The shifted code of a row and a cell, both counted from zero. -/
def shifted (row cell : Nat) : Nat :=
  let first := row / 2 + (if row < 62 then 0x81 else 0xc1)
  let second :=
    if row % 2 = 1 then cell + 0x9f else cell + (if cell < 63 then 0x40 else 0x41)
  pairCode first second

def isCell (b : Nat) : Bool := 0xa1 ≤ b && b ≤ 0xfe

/-- A narrow letter behind a byte of its own, or a row and a cell. -/
def direct? (code : Nat) : Option Char :=
  let (first, second) := (code / 0x100, code % 0x100)
  if first = 0x8e then narrow? second
  else if isCell first && isCell second then rows.get? (shifted (first - 0xa1) (second - 0xa1))
  else none

/-- A byte of its own announces a pair of the supplement; too few bytes are one fault. -/
def readDirect : CharReader
  | 0x8f :: b :: c :: _ =>
    match supplement.get? (pairCode b.toNat c.toNat) with
    | some d => (d, 3)
    | none => (replacement, 1)
  | 0x8f :: bs => (replacement, 1 + bs.length)
  | bs => readPair asciiChar? direct? bs

end DocSpace.Text.Japanese
