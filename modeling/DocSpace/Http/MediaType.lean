import DocSpace.Number.Numeral
import DocSpace.Text.Blank
import DocSpace.Text.Charset
import DocSpace.Text.Digit

set_option autoImplicit false

namespace DocSpace.Http

open Text

structure Parameter where
  name : List Char
  value : List Char

/-- The text before the first semicolon outside quotes, and what follows the semicolon. A semicolon
at the very start is never inside quotes. -/
def cutParameter (last : Char) (quotes : Bool) : List Char → List Char × Option (List Char)
  | [] => ([], none)
  | c :: cs =>
    if c = ';' ∧ !quotes then ([], some cs)
    else
      let quotes := if c = '"' ∧ last ≠ '\\' then !quotes else quotes
      let (before, after) := cutParameter c quotes cs
      (c :: before, after)

/-- Texts between semicolons; there are at most `fuel`. -/
def cutParameters : Nat → List Char → List (List Char)
  | 0, _ => []
  | fuel + 1, cs =>
    match cutParameter ' ' false cs with
    | (before, none) => [before]
    | (before, some after) => before :: cutParameters fuel after

def Parameter.ofText (cs : List Char) : Parameter where
  name := (trim (cs.takeWhile (· ≠ '='))).map Char.toLower
  value := trim ((cs.dropWhile (· ≠ '=')).drop 1)

def parameters (mediaType : String) : List Parameter :=
  let cs := mediaType.toList
  (cutParameters (cs.length + 1) cs).map .ofText

/-- What a backslash does before `escaped`: it is dropped. -/
def unescape (escaped : Char) : List Char → List Char
  | '\\' :: c :: cs =>
    if c = escaped then c :: unescape escaped cs else '\\' :: unescape escaped (c :: cs)
  | c :: cs => c :: unescape escaped cs
  | [] => []

/-- Backslashes are undone before quotes are. -/
def unescapeQuoted (cs : List Char) : List Char := unescape '"' (unescape '\\' cs)

def isEnclosed (first last : Char) (cs : List Char) : Bool :=
  2 ≤ cs.length && cs.head? == some first && cs.getLast? == some last

def unquote (cs : List Char) : List Char :=
  if isEnclosed '"' '"' cs then unescapeQuoted cs.tail.dropLast
  else if isEnclosed '<' '>' cs then cs.tail.dropLast
  else cs

def escapeParameter (cs : List Char) : List Char :=
  cs.flatMap fun c => if c = '\\' ∨ c = '"' then ['\\', c] else [c]

def isNameChar (c : Char) : Bool := c.isAlphanum || c = '_'

/-- One of several parameters that hold a value together. -/
structure Part where
  name : List Char
  number : Option Nat
  isEscaped : Bool
  value : List Char

/-- A star stands behind the name, then a number, and behind that a star for escapes. A part without
a number holds escapes. -/
def Part.ofParameter? (p : Parameter) : Option Part :=
  let (name, rest) := (p.name.takeWhile isNameChar, p.name.dropWhile isNameChar)
  let digits := (rest.drop 1).takeWhile Char.isDigit
  let number := Number.digitsValue digits
  match name.isEmpty, rest.head?, digits.isEmpty, rest.drop (1 + digits.length) with
  | false, some '*', true, [] => some ⟨name, none, true, unquote p.value⟩
  | false, some '*', false, [] => some ⟨name, some number, false, unquote p.value⟩
  | false, some '*', false, ['*'] => some ⟨name, some number, true, unquote p.value⟩
  | _, _, _, _ => none

/-- All parts of all values. The first parameter is none, whatever it is called. -/
def partsOf (ps : List Parameter) : List Part := ps.tail.filterMap Part.ofParameter?

/-- By number, then by value. -/
def Part.isUpTo (a b : Part) : Bool :=
  let (m, n) := (a.number.getD 0, b.number.getD 0)
  m < n || (m == n &&
    (a.value < b.value || (a.value == b.value && (!a.isEscaped || b.isEscaped))))

def Part.numberType (part : Part) : String := if part.number.isSome then "int" else "NoneType"

/-- The kinds of two numbers that have no order: one part of a value has a number, another none. -/
def unordered? (parts : List Part) : Option (String × String) :=
  parts.findSome? fun p =>
    (parts.find? fun q => q.name = p.name ∧ q.number.isSome ≠ p.number.isSome).map fun q =>
      (q.numberType, p.numberType)

/-- Bytes for percent signs with two digits after them; other characters are given to `other`. -/
def percentDecode (other : Char → List UInt8) : List Char → List UInt8
  | [] => []
  | [c] => other c
  | [c, d] => other c ++ other d
  | c :: d :: e :: cs =>
    match c, hexValue? d, hexValue? e with
    | '%', some high, some low => (16 * high + low).toUInt8 :: percentDecode other cs
    | _, _, _ => other c ++ percentDecode other (d :: e :: cs)

def byteChar (b : UInt8) : Char := Char.ofNat b.toNat

def charByte (c : Char) : UInt8 := c.toNat.toUInt8

def percentDecodeChars (cs : List Char) : List Char :=
  (percentDecode (fun c => [charByte c]) cs).map byteChar

/-- A value after a charset and a language, with apostrophes between the three. -/
def splitExtended (cs : List Char) : List Char × List Char :=
  match pieces '\'' cs with
  | charset :: _ :: value =>
    if value.isEmpty then ([], cs) else (charset, List.intercalate ['\''] value)
  | _ => ([], cs)

/-- The characters in the charset, or as they are where it has none for them. -/
def readExtended (charset value : List Char) : List Char :=
  let name := if charset.isEmpty then "us-ascii" else String.ofList charset
  match Charset.ofName? name with
  | some (.plain e) =>
    match e.decode 0 (value.map charByte) with
    | .ok s => s.toList
    | .error _ => value
  | _ => value

/-- The value of parts in order. -/
def joinParts (parts : List Part) : List Char :=
  let joined := escapeParameter
    ((parts.mergeSort Part.isUpTo).flatMap fun p =>
      if p.isEscaped then percentDecodeChars p.value else p.value)
  if parts.any (·.isEscaped) then
    let (charset, value) := splitExtended joined
    readExtended charset (unescapeQuoted value)
  else unescapeQuoted joined

/-- The value of a parameter, whole or in parts. A whole one counts, wherever it stands. -/
def parameter? (name : String) (ps : List Parameter) : Option (List Char) :=
  match ps.find? fun p => p.name = name.toList with
  | some p => some (unquote p.value)
  | none =>
    match (partsOf ps).filter fun part => part.name = name.toList with
    | [] => none
    | parts => some (joinParts parts)

/-- The charset that a media type names; a name outside ASCII is none. -/
def charsetName? (mediaType : String) : Option String := do
  let value ← parameter? "charset" (parameters mediaType)
  guard (value.all fun c => c.toNat < 0x80)
  return lower (String.ofList value)

/-- The charset to read in; for names that are unknown it is the common one. Parts without an order
leave none. -/
def charsetOf (mediaType : Option String) : Charset :=
  match mediaType.bind fun m => unordered? (partsOf (parameters m)) with
  | some (left, right) =>
    .noText "TypeError"
      ("'<' not supported between instances of '" ++ left ++ "' and '" ++ right ++ "'")
  | none => ((mediaType.bind charsetName?).bind Charset.ofName?).getD (.plain .utf8)

end DocSpace.Http
