import DocSpace.Number.Layout
import DocSpace.Text.Pieces
import DocSpace.Text.Quoted

set_option autoImplicit false

namespace DocSpace.Text

inductive ByteOrder where
  | little | big
  deriving DecidableEq

inductive Encoding where
  | ascii
  | utf8
  | utf16 (order : ByteOrder)
  | utf32 (order : ByteOrder)
  | byteSet (characters : Array Char)

inductive BrokenPiece where
  | notAscii
  | start
  | continuation
  | unexpectedEnd
  | truncated
  | surrogate
  | loneSurrogate
  | surrogatePoint
  | outOfRange
  deriving DecidableEq

def BrokenPiece.text : BrokenPiece → String
  | notAscii => "ordinal not in range(128)"
  | start => "invalid start byte"
  | continuation => "invalid continuation byte"
  | unexpectedEnd => "unexpected end of data"
  | truncated => "truncated data"
  | surrogate => "illegal UTF-16 surrogate"
  | loneSurrogate => "illegal encoding"
  | surrogatePoint => "code point in surrogate code point range"
  | outOfRange => "code point not in range(0x110000)"

/-- What bytes start with, and how many bytes it takes. -/
inductive Piece where
  | char (c : Char) (size : Nat)
  | broken (cause : BrokenPiece) (size : Nat)

def replacement : Char := '\ufffd'

def isSurrogate (n : Nat) : Bool := 0xd800 ≤ n && n < 0xe000

/-- A half of a pair on its own is no character, so the replacement stands for it. -/
def charOfPoint (n : Nat) : Char := if isSurrogate n then replacement else Char.ofNat n

/-- Bytes that a character takes by its first byte; none start with the other bytes. -/
def sequenceSize (first : Nat) : Nat :=
  if first < 0x80 then 1
  else if first < 0xc2 then 0
  else if first < 0xe0 then 2
  else if first < 0xf0 then 3
  else if first < 0xf5 then 4
  else 0

/-- Second bytes that may follow a first one, so that no character is written longer than need be,
none is beyond the last, and none is a half of a pair. -/
def secondBytes (first : Nat) : Nat × Nat :=
  if first = 0xe0 then (0xa0, 0xbf)
  else if first = 0xed then (0x80, 0x9f)
  else if first = 0xf0 then (0x90, 0xbf)
  else if first = 0xf4 then (0x80, 0x8f)
  else (0x80, 0xbf)

def isBetween (range : Nat × Nat) (b : UInt8) : Bool := range.1 ≤ b.toNat && b.toNat ≤ range.2

/-- The bytes that go on with a character, as far as they do. -/
def continuation (first : Nat) (rest : List UInt8) : List UInt8 :=
  match rest.take (sequenceSize first - 1) with
  | [] => []
  | second :: more =>
    if isBetween (secondBytes first) second then
      second :: more.takeWhile (isBetween (0x80, 0xbf))
    else []

/-- The first byte's share of a character's number. -/
def leadingBits (first : Nat) : Nat :=
  match sequenceSize first with
  | 2 => first % 0x20
  | 3 => first % 0x10
  | 4 => first % 0x08
  | _ => first

def startsWithSurrogate : List UInt8 → Bool
  | 0xed :: b :: c :: _ => isBetween (0xa0, 0xbf) b && isBetween (0x80, 0xbf) c
  | _ => false

def utf8Piece (allowsSurrogates : Bool) : List UInt8 → Piece
  | [] => .broken .unexpectedEnd 1
  | b :: rest =>
    let first := b.toNat
    let size := sequenceSize first
    let tail := continuation first rest
    if allowsSurrogates && startsWithSurrogate (b :: rest) then .char replacement 3
    else if size = 0 then .broken .start 1
    else if tail.length + 1 = size then
      .char (charOfPoint (tail.foldl (fun n b => 0x40 * n + b.toNat % 0x40) (leadingBits first)))
        size
    else if (rest.drop tail.length).isEmpty then .broken .unexpectedEnd (tail.length + 1)
    else .broken .continuation (tail.length + 1)

def ByteOrder.value (order : ByteOrder) (bs : List UInt8) : Nat :=
  match order with
  | .little => bs.foldr (fun b n => 0x100 * n + b.toNat) 0
  | .big => bs.foldl (fun n b => 0x100 * n + b.toNat) 0

def isHighSurrogate (n : Nat) : Bool := 0xd800 ≤ n && n < 0xdc00

def isLowSurrogate (n : Nat) : Bool := 0xdc00 ≤ n && n < 0xe000

def utf16Piece (allowsSurrogates : Bool) (order : ByteOrder) (bs : List UInt8) : Piece :=
  let unit := order.value (bs.take 2)
  let next := (bs.drop 2).take 2
  let low := order.value next
  let broken (cause : BrokenPiece) (size : Nat) : Piece :=
    if allowsSurrogates then .char replacement 2 else .broken cause size
  if (bs.take 2).length < 2 then .broken .truncated 1
  else if !isSurrogate unit then .char (charOfPoint unit) 2
  else if isLowSurrogate unit then broken .loneSurrogate 2
  else if next.length < 2 then broken .unexpectedEnd (2 + next.length)
  else if isLowSurrogate low then
    .char (charOfPoint (0x10000 + 0x400 * (unit - 0xd800) + (low - 0xdc00))) 4
  else broken .surrogate 2

def utf32Piece (allowsSurrogates : Bool) (order : ByteOrder) (bs : List UInt8) : Piece :=
  let word := bs.take 4
  let point := order.value word
  if word.length < 4 then .broken .truncated word.length
  else if isSurrogate point && !allowsSurrogates then .broken .surrogatePoint 4
  else if 0x10ffff < point then .broken .outOfRange 4
  else .char (charOfPoint point) 4

namespace Encoding

def name : Encoding → String
  | ascii => "ascii"
  | utf8 => "utf-8"
  | utf16 .little => "utf-16-le"
  | utf16 .big => "utf-16-be"
  | utf32 .little => "utf-32-le"
  | utf32 .big => "utf-32-be"
  | byteSet _ => "charmap"

def piece (e : Encoding) (allowsSurrogates : Bool) (bs : List UInt8) : Piece :=
  match e with
  | ascii =>
    let first := (bs.headD 0).toNat
    if first < 0x80 then .char (Char.ofNat first) 1 else .broken .notAscii 1
  | utf8 => utf8Piece allowsSurrogates bs
  | utf16 order => utf16Piece allowsSurrogates order bs
  | utf32 order => utf32Piece allowsSurrogates order bs
  | byteSet characters => .char (characters.getD (bs.headD 0).toNat replacement) 1

/-- Every piece takes a byte, so the number of bytes is fuel enough. -/
def replaceFrom (e : Encoding) : Nat → List UInt8 → List Char
  | 0, _ | _, [] => []
  | fuel + 1, bs =>
    match e.piece false bs with
    | .char c size => c :: replaceFrom e fuel (bs.drop size)
    | .broken _ size => replacement :: replaceFrom e fuel (bs.drop size)

def decodeReplacing (e : Encoding) (bs : List UInt8) : String :=
  String.ofList (e.replaceFrom bs.length bs)

end Encoding

/-- Why bytes have no text, or a text no bytes. -/
inductive EncodingFault where
  | undecodable (encoding : Encoding) (piece : List UInt8) (position : Nat) (cause : BrokenPiece)
  | notAscii (run : List Char) (position : Nat)
  | unmarked (name : String)
  | noText (label message : String)

def placeOfRun (position count : Nat) : String :=
  Number.natText position ++ "-" ++ Number.natText (position + count - 1)

def refusal (encoding verb subject : String) (cause : BrokenPiece) : String :=
  "'" ++ encoding ++ "' codec can't " ++ verb ++ " " ++ subject ++ ": " ++ cause.text

namespace EncodingFault

def label : EncodingFault → String
  | undecodable _ _ _ _ => "UnicodeDecodeError"
  | notAscii _ _ => "UnicodeEncodeError"
  | unmarked _ => "UnicodeError"
  | noText label _ => label

/-- A single byte or character is shown, of more than one only the place. -/
def text : EncodingFault → String
  | undecodable e [b] p cause =>
    refusal e.name "decode"
      ("byte 0x" ++ String.ofList (hexDigits 2 b.toNat) ++ " in position " ++ Number.natText p)
      cause
  | undecodable e piece p cause =>
    refusal e.name "decode" ("bytes in position " ++ placeOfRun p piece.length) cause
  | notAscii [c] p =>
    refusal Encoding.ascii.name "encode"
      ("character '" ++ String.ofList (escapeUnprintable c.toNat) ++ "' in position " ++
        Number.natText p) .notAscii
  | notAscii run p =>
    refusal Encoding.ascii.name "encode" ("characters in position " ++ placeOfRun p run.length)
      .notAscii
  | unmarked name => name ++ " stream does not start with BOM"
  | noText _ message => message

end EncodingFault

namespace Encoding

/-- Reads from a position on; the first piece that is no character refuses the whole. -/
def readFrom (e : Encoding) (position : Nat) : Nat → List UInt8 →
    Except EncodingFault (List Char)
  | 0, _ | _, [] => .ok []
  | fuel + 1, bs =>
    match e.piece true bs with
    | .char c size => do return c :: (← e.readFrom (position + size) fuel (bs.drop size))
    | .broken cause size => .error (.undecodable e (bs.take size) position cause)

/-- The text of the bytes; halves of pairs are read, and nothing else that is no character. -/
def decode (e : Encoding) (position : Nat) (bs : List UInt8) : Except EncodingFault String :=
  (e.readFrom position bs.length bs).map String.ofList

end Encoding

/-- A text of ASCII characters only as bytes. -/
def asciiBytes (s : String) : Except EncodingFault (List UInt8) :=
  let isAscii (c : Char) : Bool := c.toNat < 0x80
  let before := s.toList.takeWhile isAscii
  match (s.toList.drop before.length).takeWhile (!isAscii ·) with
  | [] => .ok (s.toList.map fun c => c.toNat.toUInt8)
  | run => .error (.notAscii run before.length)

end DocSpace.Text
