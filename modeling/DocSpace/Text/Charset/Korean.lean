import DocSpace.Text.Charset.Korean.Table
import DocSpace.Text.Charset.Pairs

set_option autoImplicit false

namespace DocSpace.Text.Korean

def rows : Rows := .ofList koreanRows

/-- Syllables that the rows lack. -/
def otherSyllables : Array Char :=
  let marks := rows.marks
  let points := (List.range 11172).map (0xac00 + ·)
  ((points.filter fun n => !marks.getD n false).map Char.ofNat).toArray

def addedBlocks : List Block :=
  [⟨(0x81, 0xa0), [(0x41, 0x5a), (0x61, 0x7a), (0x81, 0xfe)], 0⟩,
    ⟨(0xa1, 0xc6), [(0x41, 0x5a), (0x61, 0x7a), (0x81, 0xa0)], 5696⟩]

def fillerCode : Nat := 0xa4d4

def filler? (code : Nat) : Option Char := if code = fillerCode then some '\u3164' else none

def extended? (code : Nat) : Option Char :=
  rows.get? code <|> filler? code <|>
    (addedBlocks.findSome? (·.place? code)).bind (otherSyllables[·]?)

def initials : List Char := "ㄱㄲㄴㄷㄸㄹㅁㅂㅃㅅㅆㅇㅈㅉㅊㅋㅌㅍㅎ".toList

def vowels : List Char := "ㅏㅐㅑㅒㅓㅔㅕㅖㅗㅘㅙㅚㅛㅜㅝㅞㅟㅠㅡㅢㅣ".toList

/-- Letters that end a syllable; the filler stands for none. -/
def finals : List Char := "\u3164ㄱㄲㄳㄴㄵㄶㄷㄹㄺㄻㄼㄽㄾㄿㅀㅁㅂㅄㅅㅆㅇㅈㅊㅋㅌㅍㅎ".toList

/-- The syllable that the pairs of three letters spell. -/
def spelled? (first middle last : Nat) : Option Char := do
  let i ← initials.idxOf? (← rows.get? first)
  let v ← vowels.idxOf? (← rows.get? middle)
  let f ← finals.idxOf? (← rows.get? last <|> filler? last)
  some (Char.ofNat (0xac00 + (i * vowels.length + v) * finals.length + f))

/-- A filler announces three letters; too few bytes are one fault. -/
def read : CharReader
  | 0xa4 :: 0xd4 :: a :: b :: c :: d :: e :: f :: _ =>
    let pair (first second : UInt8) : Nat := pairCode first.toNat second.toNat
    match spelled? (pair a b) (pair c d) (pair e f) with
    | some s => (s, 8)
    | none => (replacement, 1)
  | 0xa4 :: 0xd4 :: bs => (replacement, 2 + bs.length)
  | bs => readPair asciiChar? rows.get? bs

end DocSpace.Text.Korean
