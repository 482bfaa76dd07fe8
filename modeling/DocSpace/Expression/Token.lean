import DocSpace.Number.Numeral
import DocSpace.Text.Digit
import DocSpace.Text.Identifier
import DocSpace.Text.Pieces

set_option autoImplicit false

namespace DocSpace

/-- Why a text is not read as an expression: it is none, or what it says has no text of its own. -/
inductive Misreading where
  | malformed
  | unfamiliar
  deriving DecidableEq

inductive Token where
  | word (s : String)
  | whole (n : Nat)
  | double (d : Double)
  | text (s : String)
  | bytes (bs : List UInt8)
  | mark (s : String)
  deriving DecidableEq

namespace Token

open Text Number

def isGap (c : Char) : Bool := c == ' ' || c == '\t' || c == '\x0c'

def isIdleLine (line : List Char) : Bool :=
  match line.dropWhile isGap with
  | [] => true
  | c :: _ => c == '#'

def plainLineEnds : List Char → List Char
  | [] => []
  | '\r' :: '\n' :: cs => '\n' :: plainLineEnds cs
  | c :: cs => (if c = '\r' then '\n' else c) :: plainLineEnds cs

/-- What stands between quotes. A template may have braces for other expressions. -/
inductive Contents where
  | text
  | bytes
  | template
  deriving DecidableEq

structure TextForm where
  raw : Bool
  contents : Contents

def escapes : List (Char × List Char) :=
  [('\n', []), ('\\', ['\\']), ('\'', ['\'']), ('"', ['"']), ('n', ['\n']), ('t', ['\t']),
    ('r', ['\r']), ('a', ['\x07']), ('b', ['\x08']), ('f', ['\x0c']), ('v', ['\x0b'])]

/-- Number of digits after a letter for an escape by number; bytes have but one such letter. -/
def escapeWidth? (contents : Contents) (c : Char) : Option Nat :=
  if c = 'x' then some 2
  else if contents = .bytes then none
  else if c = 'u' then some 4
  else if c = 'U' then some 8
  else none

/-- The character with a number; halves of pairs are not held here. -/
def charOf (n : Nat) : Except Misreading Char :=
  if n.isValidChar then .ok (Char.ofNat n)
  else .error (if n ≤ 0x10ffff then .unfamiliar else .malformed)

/-- What a backslash and `c :: cs` stand for, and what follows. -/
def readEscape (contents : Contents) (c : Char) (cs : List Char) :
    Except Misreading (List Char × List Char) :=
  match escapes.lookup c, escapeWidth? contents c with
  | some ds, _ => .ok (ds, cs)
  | none, some width =>
    match if (cs.take width).length = width then numberIn? 16 (cs.take width) else none with
    | some n => do return ([← charOf n], cs.drop width)
    | none => .error .malformed
  | none, none =>
    if isDigitIn 8 c then
      let digits := ((c :: cs).take 3).takeWhile (isDigitIn 8)
      let n := (numberIn? 8 digits).getD 0
      .ok ([Char.ofNat (if contents = .bytes then n % 256 else n)], (c :: cs).drop digits.length)
    else if c = 'N' ∧ contents ≠ .bytes then .error .unfamiliar
    else .ok (['\\', c], cs)

/-- Characters with their escapes replaced. The first number bounds the steps. -/
def unescape (contents : Contents) : Nat → List Char → Except Misreading (List Char)
  | 0, _ | _, [] => .ok []
  | fuel + 1, '\\' :: c :: cs => do
    let (ds, rest) ← readEscape contents c cs
    return ds ++ (← unescape contents fuel rest)
  | fuel + 1, c :: cs => do return c :: (← unescape contents fuel cs)

/-- The characters up to the closing quotes, and what follows these. Escapes are left in. -/
def splitText (quote : Char) (triple : Bool) :
    List Char → Except Misreading (List Char × List Char)
  | [] => .error .malformed
  | '\\' :: c :: cs => do
    let (body, rest) ← splitText quote triple cs
    return ('\\' :: c :: body, rest)
  | c :: cs =>
    if c = quote ∧ (!triple ∨ cs.take 2 = [c, c]) then
      .ok ([], if triple then cs.drop 2 else cs)
    else if c = '\n' ∧ !triple then .error .malformed
    else do
      let (body, rest) ← splitText quote triple cs
      return (c :: body, rest)

def isQuote (c : Char) : Bool := c == '\'' || c == '"'

def isBrace (c : Char) : Bool := c == '\x7b' || c == '\x7d'

def ofContents (form : TextForm) (body : List Char) : Except Misreading Token := do
  let cs ← if form.raw then pure body else unescape form.contents body.length body
  match form.contents with
  | .text => return text (String.ofList cs)
  | .bytes =>
    if body.all fun c => c.toNat < 0x80 then return bytes (cs.map fun c => c.toNat.toUInt8)
    else .error .malformed
  | .template =>
    if body.any isBrace then .error .unfamiliar else return text (String.ofList cs)

def readText (form : TextForm) (quote : Char) (cs : List Char) :
    Except Misreading (Token × List Char) := do
  let triple := cs.take 2 = [quote, quote]
  let (body, rest) ← splitText quote triple (if triple then cs.drop 2 else cs)
  return (← ofContents form body, rest)

def plainText : TextForm := ⟨false, .text⟩

def textLetters : List (String × TextForm) :=
  [("u", plainText), ("r", ⟨true, .text⟩), ("b", ⟨false, .bytes⟩), ("br", ⟨true, .bytes⟩),
    ("rb", ⟨true, .bytes⟩), ("f", ⟨false, .template⟩), ("fr", ⟨true, .template⟩),
    ("rf", ⟨true, .template⟩)]

def readWord (cs : List Char) : Except Misreading (Token × List Char) :=
  let name := String.ofList (cs.takeWhile isNamePart)
  match cs.dropWhile isNamePart, textLetters.lookup name.toLower with
  | q :: rest, some form => if isQuote q then readText form q rest else .ok (word name, q :: rest)
  | rest, _ => .ok (word name, rest)

def isNumberPart (c : Char) : Bool := c.isAlphanum || c == '_' || c == '.'

def baseOf? (c : Char) : Option Nat := [('x', 16), ('o', 8), ('b', 2)].lookup c.toLower

def dropJoints (base : Nat) (cs : List Char) : Option (List Char) :=
  let groups := pieces '_' cs
  if groups.all fun g => !g.isEmpty && g.all (isDigitIn base) then some groups.flatten else none

/-- A number in a base; an underscore may follow the letter. -/
def numberIn (base : Nat) (cs : List Char) : Except Misreading Token :=
  let digits := match cs with
    | '_' :: ds => ds
    | ds => ds
  match (dropJoints base digits).bind (numberIn? base) with
  | some n => .ok (whole n)
  | none => .error .malformed

/-- A whole number; only zero starts with a zero. -/
def wholeOf (ds : List Char) : Except Misreading Token :=
  if ds.head? = some '0' ∧ ds.any (· ≠ '0') then .error .malformed
  else .ok (whole (digitsValue ds))

def decimalOf (cs : List Char) : Except Misreading Token :=
  match dropSeparators cs with
  | none => .error .malformed
  | some ds =>
    if ds.all Char.isDigit then wholeOf ds
    else
      match readUnsigned? false ds with
      | some d => .ok (double d)
      | none => .error .malformed

def numberOf (cs : List Char) : Except Misreading Token :=
  match cs with
  | '0' :: c :: ds =>
    match baseOf? c with
    | some base => numberIn base ds
    | none => decimalOf cs
  | _ => decimalOf cs

/-- An exponent may have a sign. -/
def endsInExponent (cs : List Char) : Bool :=
  !cs.any (· ∈ ['x', 'X']) && cs.getLast?.any (· ∈ ['e', 'E'])

def splitNumber (cs : List Char) : List Char × List Char :=
  let first := cs.takeWhile isNumberPart
  match cs.dropWhile isNumberPart with
  | c :: rest =>
    if endsInExponent first ∧ c ∈ ['+', '-'] then
      (first ++ c :: rest.takeWhile Char.isDigit, rest.dropWhile Char.isDigit)
    else (first, c :: rest)
  | [] => (first, [])

def readNumber (cs : List Char) : Except Misreading (Token × List Char) := do
  let (number, rest) := splitNumber cs
  if number.getLast?.any (· ∈ ['j', 'J']) then
    let _ ← decimalOf number.dropLast
    .error .unfamiliar
  else return (← numberOf number, rest)

def startsNumber : List Char → Bool
  | '.' :: c :: _ => c.isDigit
  | c :: _ => c.isDigit
  | [] => false

def marks : List String :=
  ["...", "**=", "//=", ">>=", "<<=", "**", "//", "<<", ">>", "<=", ">=", "==", "!=", "->", "+=",
    "-=", "*=", "/=", "%=", "&=", "|=", "^=", "@=", ":=", "(", ")", "[", "]", "\x7b", "\x7d", ",",
    ":", ".", ";", "@", "=", "+", "-", "*", "/", "%", "&", "|", "^", "~", "<", ">"]

def readMark (cs : List Char) : Except Misreading (Token × List Char) :=
  match marks.find? fun m => m.toList.isPrefixOf cs with
  | some m => .ok (mark m, cs.drop m.length)
  | none => .error .malformed

def readToken (cs : List Char) : Except Misreading (Token × List Char) :=
  match cs with
  | [] => .error .malformed
  | c :: more =>
    if isNameStart c then readWord cs
    else if startsNumber cs then readNumber cs
    else if isQuote c then readText plainText c more
    else readMark cs

def maxDepth : Nat := 200

def depthAfter (depth : Nat) : Token → Nat
  | mark m =>
    if m ∈ ["(", "[", "\x7b"] then depth + 1
    else if m ∈ [")", "]", "\x7d"] then depth - 1
    else depth
  | _ => depth

/-- Tokens of a text, with `depth` brackets open before it. The first number bounds the steps. -/
def readAll : Nat → Nat → List Char → Except Misreading (List Token)
  | 0, _, _ | _, _, [] => .ok []
  | fuel + 1, depth, c :: cs =>
    if isGap c then readAll fuel depth cs
    else if c = '#' then readAll fuel depth (cs.dropWhile (· ≠ '\n'))
    else if c = '\n' then
      if depth ≠ 0 then readAll fuel depth cs
      else if (pieces '\n' cs).all isIdleLine then .ok []
      else .error .malformed
    else if c = '\\' then
      match cs with
      | '\n' :: rest@(_ :: _) => readAll fuel depth rest
      | _ => .error .malformed
    else do
      let (t, rest) ← readToken (c :: cs)
      if maxDepth < t.depthAfter depth then .error .malformed
      else return t :: (← readAll fuel (t.depthAfter depth) rest)

def fromFirstLine (cs : List Char) : List Char :=
  (((pieces '\n' cs).dropWhile isIdleLine).intersperse ['\n']).flatten

def ofText (s : String) : Except Misreading (List Token) :=
  match fromFirstLine (plainLineEnds s.toList) with
  | [] => .error .malformed
  | c :: cs => if isGap c then .error .malformed else readAll (cs.length + 1) 0 (c :: cs)

end Token

end DocSpace
