import DocSpace.Number.Double
import DocSpace.Text.Blank
import DocSpace.Text.DecimalDigit

set_option autoImplicit false

namespace DocSpace.Number

open Text

inductive NumeralFault where
  | malformed
  | tooManyDigits (count : Nat)
  deriving DecidableEq

/-- The ASCII character that stands for `c` in a numeral. -/
def plainChar (c : Char) : Char :=
  if c.toNat < 0x80 then c
  else if isBlank c then ' '
  else
    match digitValue? c with
    | some d => Char.ofNat ('0'.toNat + d)
    | none => '?'

/-- White space that may surround a numeral once other scripts are out of it. -/
def isNumeralBlank (c : Char) : Bool := c == ' ' || (0x09 ≤ c.toNat && c.toNat ≤ 0x0d)

/-- Drops every underscore between two digits; `none` if one stands elsewhere. -/
def dropSeparators : List Char → Option (List Char)
  | [] => some []
  | c :: '_' :: d :: cs =>
    if c.isDigit && d.isDigit then (c :: ·) <$> dropSeparators (d :: cs) else none
  | c :: cs => if c = '_' then none else (c :: ·) <$> dropSeparators cs

def digitsValue (ds : List Char) : Nat := ds.foldl (fun n d => 10 * n + (d.toNat - '0'.toNat)) 0

/-- Whether a minus stands in front, and what follows the sign. -/
def takeSign : List Char → Bool × List Char
  | '-' :: cs => (true, cs)
  | '+' :: cs => (false, cs)
  | cs => (false, cs)

def signed (negative : Bool) (n : Nat) : Int := if negative then -n else n

def maxDigits : Nat := 4300

def readInt (s : String) : Except NumeralFault Int :=
  let (negative, cs) := takeSign ((s.toList.map plainChar).dropWhile isNumeralBlank)
  match dropSeparators (cs.takeWhile fun c => c.isDigit || c == '_') with
  | none | some [] => throw .malformed
  | some ds =>
    if maxDigits < ds.length then throw (.tooManyDigits ds.length)
    else if (cs.dropWhile fun c => c.isDigit || c == '_').all isNumeralBlank then
      return signed negative (digitsValue ds)
    else throw .malformed

def readExponent? : List Char → Option Int
  | [] => some 0
  | e :: cs =>
    let (negative, ds) := takeSign cs
    if (e = 'e' ∨ e = 'E') ∧ ds ≠ [] ∧ ds.all Char.isDigit then
      some (signed negative (digitsValue ds))
    else none

/-- A numeral with an optional fraction and an optional exponent, less its sign. -/
def readUnsigned? (negative : Bool) (cs : List Char) : Option Double := do
  let whole := cs.takeWhile Char.isDigit
  let (fraction, rest) :=
    match cs.dropWhile Char.isDigit with
    | '.' :: r => (r.takeWhile Char.isDigit, r.dropWhile Char.isDigit)
    | r => ([], r)
  if whole.isEmpty && fraction.isEmpty then none else
    let e ← readExponent? rest
    return Double.ofDecimal negative (digitsValue (whole ++ fraction)) (e - fraction.length)

def infinityWords : List String := ["inf", "infinity"]

def readDouble (s : String) : Except NumeralFault Double :=
  let cs := (s.toList.map plainChar).dropWhile isNumeralBlank
  match dropSeparators (cs.reverse.dropWhile isNumeralBlank).reverse with
  | none => throw .malformed
  | some cs =>
    let (negative, cs) := takeSign cs
    let word := String.ofList (cs.map Char.toLower)
    if word ∈ infinityWords then return .infinite negative
    else if word = "nan" then return .notANumber
    else
      match readUnsigned? negative cs with
      | some d => return d
      | none => throw .malformed

end DocSpace.Number
