import DocSpace.Number.Layout
import DocSpace.Text.Quoted

set_option autoImplicit false

namespace DocSpace.Http

open Number Text

/-- Where in which label a code point stands; positions count from one. -/
structure Spot where
  point : Nat
  position : Nat
  label : List Nat

inductive NameFault where
  | labelTooLong
  | emptyLabel
  | notComposed
  | innerHyphens
  | outerHyphen
  | leadingMark
  | refused (spot : Spot)
  | outOfContext (spot : Spot)
  | strayJoiner (spot : Spot)
  | undirected (label : List Nat) (position : Nat)
  | undirectedStart (label : List Nat)
  | misdirected (fromRight : Bool) (position : Nat)
  | mixedNumbers
  | undirectedEnd
  | emptyForm
  | hyphenAtEnd
  | unreadableForm
  | nameTooLong
  | emptyName

namespace NameFault

def label : NameFault → String
  | refused _ => "InvalidCodepoint"
  | outOfContext _ => "InvalidCodepointContext"
  | undirected _ _ | undirectedStart _ | misdirected _ _ | mixedNumbers | undirectedEnd =>
    "IDNABidiError"
  | _ => "IDNAError"

/-- A code point by its number, in four digits at least. -/
def pointName (n : Nat) : String :=
  let width := if n < 0x10000 then 4 else if n < 0x100000 then 5 else 6
  "U+" ++ String.ofList ((hexDigits width n).map Char.toUpper)

def text : NameFault → String
  | labelTooLong => "Label too long"
  | emptyLabel => "Empty Label"
  | notComposed => "Label must be in Normalization Form C"
  | innerHyphens => "Label has disallowed hyphens in 3rd and 4th position"
  | outerHyphen => "Label must not start or end with a hyphen"
  | leadingMark => "Label begins with an illegal combining character"
  | refused s =>
    "Codepoint " ++ pointName s.point ++ " at position " ++ natText s.position ++ " of " ++
      quotedPoints s.label ++ " not allowed"
  | outOfContext s =>
    "Codepoint " ++ pointName s.point ++ " not allowed at position " ++ natText s.position ++
      " in " ++ quotedPoints s.label
  | strayJoiner s =>
    "Unknown codepoint adjacent to joiner " ++ pointName s.point ++ " at position " ++
      natText s.position ++ " in " ++ quotedPoints s.label
  | undirected l p =>
    "Unknown directionality in label " ++ quotedPoints l ++ " at position " ++ natText p
  | undirectedStart l =>
    "First codepoint in label " ++ quotedPoints l ++ " must be directionality L, R or AL"
  | misdirected fromRight p =>
    "Invalid direction for codepoint at position " ++ natText p ++ " in a " ++
      (if fromRight then "right-to-left" else "left-to-right") ++ " label"
  | mixedNumbers => "Can not mix numeral types in a right-to-left label"
  | undirectedEnd => "Label ends with illegal codepoint directionality"
  | emptyForm => "Malformed A-label, no Punycode eligible content found"
  | hyphenAtEnd => "A-label must not end with a hyphen"
  | unreadableForm => "Invalid A-label"
  | nameTooLong => "Domain too long"
  | emptyName => "Empty domain"

end NameFault

end DocSpace.Http
