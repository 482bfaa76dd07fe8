import DocSpace.Http.Label.Direction
import DocSpace.Http.Label.Fault
import DocSpace.Http.Label.Table
import DocSpace.Http.Punycode
import DocSpace.Text.Composition
import DocSpace.Text.Ranges

set_option autoImplicit false

namespace DocSpace.Http

open Number Text

def hyphen : Nat := '-'.toNat

def checkHyphens (label : List Nat) : Except NameFault Unit :=
  if (label.drop 2).take 2 = [hyphen, hyphen] then .error .innerHyphens
  else if label.head? = some hyphen ∨ label.getLast? = some hyphen then .error .outerHyphen
  else .ok ()

/-- A place in a label: what is before it, nearest first, and what is after it. -/
structure Neighbourhood where
  before : List Nat
  after : List Nat

/-- Whether the nearest letter that joining does not look through is in one of the tables. -/
def joins (tables : List (Array (Nat × Nat))) (ns : List Nat) : Bool :=
  match ns.dropWhile (inRanges transparentRanges) with
  | [] => false
  | n :: _ => tables.any fun t => inRanges t n

def isNonJoiner (n : Nat) : Bool := n == 0x200c

def isJoiner (n : Nat) : Bool := isNonJoiner n || n == 0x200d

/-- Joiners stand after a sign that takes a vowel away, and the one that separates also between
letters that would join, but never after a code point that is not assigned. -/
def joinerFits (n : Nat) (h : Neighbourhood) : Bool :=
  !h.before.head?.any (fun m => combiningClass m == 0 && direction m == .unknown) &&
    (h.before.head?.any (fun m => combiningClass m == viramaClass) ||
      isNonJoiner n && joins [leftJoinedRanges, joinedRanges] h.before &&
        joins [rightJoinedRanges, joinedRanges] h.after)

def isArabicDigit (n : Nat) : Bool := 0x660 ≤ n && n ≤ 0x669

def isPersianDigit (n : Nat) : Bool := 0x6f0 ≤ n && n ≤ 0x6f9

/-- Whether a code point that depends on its surroundings may stand in them; none for the others. -/
def contextFits? (label : List Nat) (n : Nat) (h : Neighbourhood) : Option Bool :=
  if n = 0xb7 then
    some (h.before.head? == some 'l'.toNat && h.after.head? == some 'l'.toNat)
  else if n = 0x375 then some (h.after.head?.any (inRanges greekRanges))
  else if n = 0x5f3 ∨ n = 0x5f4 then some (h.before.head?.any (inRanges hebrewRanges))
  else if n = 0x30fb then some (label.any fun m => m != n && inRanges japaneseRanges m)
  else if isArabicDigit n then some (!label.any isPersianDigit)
  else if isPersianDigit n then some (!label.any isArabicDigit)
  else none

def checkPoint (label : List Nat) (n : Nat) (h : Neighbourhood) : Except NameFault Unit :=
  let spot : Spot := ⟨n, h.before.length + 1, label⟩
  if inRanges allowedRanges n then .ok ()
  else if isJoiner n then
    if joinerFits n h then .ok () else .error (.strayJoiner spot)
  else
    match contextFits? label n h with
    | some true => .ok ()
    | some false => .error (.outOfContext spot)
    | none => .error (.refused spot)

def checkPoints (label : List Nat) (before : List Nat) : List Nat → Except NameFault Unit
  | [] => .ok ()
  | n :: ns => do
    checkPoint label n ⟨before, ns⟩
    checkPoints label (n :: before) ns

def isFromRight (d : Direction) : Bool := d == .right || d == .arabicLetter

def fits (fromRight : Bool) (d : Direction) : Bool :=
  [.number, .sign, .neutral, .passed, .mark].contains d ||
    if fromRight then isFromRight d || d == .arabicNumber else d == .left

def mayEnd (fromRight : Bool) (d : Direction) : Bool :=
  d == .number || if fromRight then isFromRight d || d == .arabicNumber else d == .left

/-- Goes over the directions of a label: each has to fit, and one kind of numbers only is written
from the right. -/
def checkDirections (fromRight : Bool) (position : Nat) (numbers : Option Direction) :
    List Direction → Except NameFault Unit
  | [] => .ok ()
  | d :: ds =>
    if !fits fromRight d then .error (.misdirected fromRight position)
    else if fromRight && (d == .arabicNumber || d == .number) then
      if numbers.any (· != d) then .error .mixedNumbers
      else checkDirections fromRight (position + 1) (some d) ds
    else checkDirections fromRight (position + 1) numbers ds

/-- Labels with letters or numbers that are written from the right keep to one direction. -/
def checkDirection (label : List Nat) : Except NameFault Unit := do
  let ds := label.map direction
  if ds.contains .unknown then
    throw (.undirected label ((ds.takeWhile (· != .unknown)).length + 1))
  if ds.any fun d => isFromRight d || d == .arabicNumber then
    let first := ds.headD .left
    if !(isFromRight first || first == .left) then throw (.undirectedStart label)
    let fromRight := isFromRight first
    checkDirections fromRight 1 none ds
    if !((ds.reverse.dropWhile (· == .mark)).head?.any (mayEnd fromRight)) then
      throw .undirectedEnd

/-- Labels longer than a whole name are not looked at. -/
def maxChecked : Nat := 254

def checkLabel (label : List Nat) : Except NameFault Unit := do
  if label.isEmpty then throw .emptyLabel
  if maxChecked < label.length then throw .labelTooLong
  if composed label ≠ label then throw .notComposed
  checkHyphens label
  if label.head?.any isMark then throw .leadingMark
  checkPoints label [] label
  checkDirection label

def formMark : List Char := "xn--".toList

def isAsciiPoint (n : Nat) : Bool := n < 0x80

def readLabel (cs : List Char) : Except NameFault (List Nat) := do
  let cs := cs.map Char.toLower
  if formMark.isPrefixOf cs then
    let form := cs.drop formMark.length
    if form.isEmpty then throw .emptyForm
    if form.getLast? = some '-' then throw .hyphenAtEnd
    match unpunycode? form with
    | none => throw .unreadableForm
    | some label =>
      checkLabel label
      return label
  else
    let label := cs.map Char.toNat
    checkLabel label
    return label

def maxLabel : Nat := 63

def asciiLabel (cs : List Char) : Except NameFault (List Char) := do
  let form ←
    if cs.all (isAsciiPoint ·.toNat) then
      let _ ← readLabel cs
      pure cs
    else
      checkLabel (cs.map Char.toNat)
      pure (formMark ++ punycode cs)
  if maxLabel < form.length then throw .labelTooLong
  return form

end DocSpace.Http
