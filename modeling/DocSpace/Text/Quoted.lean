import DocSpace.Text.Printable

set_option autoImplicit false

namespace DocSpace.Text

def hexDigit (n : Nat) : Char :=
  if n < 10 then Char.ofNat ('0'.toNat + n) else Char.ofNat ('a'.toNat + (n - 10))

/-- The last `width` hexadecimal digits of `n`. -/
def hexDigits : Nat → Nat → List Char
  | 0, _ => []
  | width + 1, n => hexDigits width (n / 16) ++ [hexDigit (n % 16)]

def enclosingQuote (cs : List Char) : Char :=
  if cs.contains '\'' && !cs.contains '"' then '"' else '\''

def escapeUnprintable (n : Nat) : List Char :=
  if n ≤ 0xff then '\\' :: 'x' :: hexDigits 2 n
  else if n ≤ 0xffff then '\\' :: 'u' :: hexDigits 4 n
  else '\\' :: 'U' :: hexDigits 8 n

def escapeQuoted (quote c : Char) : List Char :=
  if c = quote ∨ c = '\\' then ['\\', c]
  else if c = '\n' then ['\\', 'n']
  else if c = '\r' then ['\\', 'r']
  else if c = '\t' then ['\\', 't']
  else if isPrintable c then [c]
  else escapeUnprintable c.toNat

def quoteChars (escape : Char → Char → List Char) (cs : List Char) : List Char :=
  let quote := enclosingQuote cs
  quote :: cs.flatMap (escape quote) ++ [quote]

def quoted (s : String) : String := String.ofList (quoteChars escapeQuoted s.toList)

/-- Code points quoted as a text; halves of pairs are no characters and are written by number. -/
def quotedPoints (ns : List Nat) : String :=
  let quote := enclosingQuote (ns.map Char.ofNat)
  String.ofList <| quote :: ns.flatMap (fun n =>
    if n.isValidChar then escapeQuoted quote (Char.ofNat n) else escapeUnprintable n) ++ [quote]

/-- Bytes read as characters; outside printable ASCII each is written by its number. -/
def quotedBytes (bs : List UInt8) : String :=
  String.ofList <| 'b' :: quoteChars
    (fun quote c => if c.toNat < 0x7f then escapeQuoted quote c else escapeUnprintable c.toNat)
    (bs.map fun b => Char.ofNat b.toNat)

end DocSpace.Text
