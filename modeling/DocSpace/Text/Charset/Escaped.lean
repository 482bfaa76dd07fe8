import DocSpace.Text.Charset.Pairs
import DocSpace.Text.Digit

set_option autoImplicit false

namespace DocSpace.Text.Escaped

def charOfByte (b : UInt8) : Char := Char.ofNat b.toNat

/-- The number that the first digits among `width` bytes stand for, and how many they are. -/
def numberOf (base width : Nat) (bs : List UInt8) : Nat × Nat :=
  let digits := ((bs.take width).map charOfByte).takeWhile (isDigitIn base)
  ((numberIn? base digits).getD 0, digits.length)

/-- A character by its number behind a letter, in `width` digits; fewer digits are one fault. -/
def readNumbered (width : Nat) (bs : List UInt8) : Char × Nat :=
  let (n, count) := numberOf 16 width bs
  (if count = width ∧ n ≤ 0x10ffff then charOfPoint n else replacement, 2 + count)

def widths : List (Char × Nat) := [('x', 2), ('u', 4), ('U', 8)]

def simple : List (Char × Char) :=
  [('\\', '\\'), ('\'', '\''), ('"', '"'), ('n', '\n'), ('t', '\t'), ('r', '\r'), ('b', '\x08'),
    ('f', '\x0c'), ('v', '\x0b'), ('a', '\x07')]

/-- How many bytes a name in braces takes. No name is known; an empty one leaves its end. -/
def namedSize : List UInt8 → Nat
  | 0x7b :: 0x7d :: _ => 1
  | 0x7b :: bs => 1 + ((bs.takeWhile (· != 0x7d)).length + 1)
  | _ => 0

/-- Backslashes escape by number and by letter, and drop the end of a line. -/
def readEscapes (fuel : Nat) (bs : List UInt8) : List Char :=
  match fuel, bs with
  | 0, _ | _, [] => []
  | _, [0x5c] => [replacement]
  | fuel + 1, 0x5c :: b :: bs =>
    let c := charOfByte b
    match simple.lookup c, widths.lookup c with
    | some d, _ => d :: readEscapes fuel bs
    | none, some width =>
      let (d, size) := readNumbered width bs
      d :: readEscapes fuel (bs.drop (size - 2))
    | none, none =>
      if c = '\n' then readEscapes fuel bs
      else if c = 'N' then replacement :: readEscapes fuel (bs.drop (namedSize bs))
      else if isDigitIn 8 c then
        let (n, count) := numberOf 8 3 (b :: bs)
        Char.ofNat n :: readEscapes fuel (bs.drop (count - 1))
      else '\\' :: c :: readEscapes fuel bs
  | fuel + 1, b :: bs => charOfByte b :: readEscapes fuel bs

/-- Only the two long forms of escapes by number count. -/
def readRaw (fuel : Nat) (bs : List UInt8) : List Char :=
  match fuel, bs with
  | 0, _ | _, [] => []
  | fuel + 1, 0x5c :: b :: bs =>
    let c := charOfByte b
    match if c = 'x' then none else widths.lookup c with
    | some width =>
      let (d, size) := readNumbered width bs
      d :: readRaw fuel (bs.drop (size - 2))
    | none => '\\' :: c :: readRaw fuel bs
  | fuel + 1, b :: bs => charOfByte b :: readRaw fuel bs

def sixBits? (b : UInt8) : Option Nat :=
  let c := charOfByte b
  if c.isUpper then some (c.toNat - 'A'.toNat)
  else if c.isLower then some (c.toNat - 'a'.toNat + 26)
  else if c.isDigit then some (c.toNat - '0'.toNat + 52)
  else if c = '+' then some 62
  else if c = '/' then some 63
  else none

/-- A run in base 64 that is being read: bits that are left, and half of a pair of code units. -/
structure Run where
  bits : Nat
  count : Nat
  high : Option Nat

def Run.start : Run := ⟨0, 0, none⟩

/-- What a code unit gives, with the half that came before it. -/
def Run.takeUnit (run : Run) (unit : Nat) : List Char × Option Nat :=
  match run.high with
  | some high =>
    if isLowSurrogate unit then
      ([Char.ofNat (0x10000 + (high - 0xd800) * 0x400 + (unit - 0xdc00))], none)
    else if isHighSurrogate unit then ([replacement], some unit)
    else ([replacement, charOfPoint unit], none)
  | none => if isHighSurrogate unit then ([], some unit) else ([charOfPoint unit], none)

/-- Six more bits; sixteen make a code unit. -/
def Run.push (run : Run) (six : Nat) : List Char × Run :=
  let bits := run.bits * 64 + six
  let count := run.count + 6
  if count < 16 then ([], { run with bits := bits, count := count })
  else
    let rest := pow2 (count - 16)
    let (cs, high) := run.takeUnit (bits / rest)
    (cs, ⟨bits % rest, count - 16, high⟩)
where
  pow2 (n : Nat) : Nat := 1 <<< n

/-- Whether bits are left that should not be. -/
def Run.isBroken (run : Run) : Bool := 6 ≤ run.count || (0 < run.count && run.bits != 0)

def Run.isUnfinished (run : Run) : Bool := run.high.isSome || run.isBroken

/-- A plus starts a run, and whatever is no digit ends it; a minus at the end is dropped. -/
def readRuns (fuel : Nat) (run : Option Run) (bs : List UInt8) : List Char :=
  match fuel, run, bs with
  | 0, _, _ | _, none, [] => []
  | _, some run, [] => if run.isUnfinished then [replacement] else []
  | fuel + 1, some run, b :: bs =>
    match sixBits? b with
    | some six =>
      let (cs, run) := run.push six
      cs ++ readRuns fuel (some run) bs
    | none =>
      if run.isBroken then replacement :: readRuns fuel none bs
      else
        let left := if run.high.isSome && b < 0x80 then [replacement] else []
        left ++ readRuns fuel none (if b = 0x2d then bs else b :: bs)
  | fuel + 1, none, 0x2b :: bs =>
    match bs with
    | [] => readRuns fuel (some .start) []
    | b :: more =>
      if b = 0x2d then '+' :: readRuns fuel none more
      else if (sixBits? b).isSome then readRuns fuel (some .start) bs
      else replacement :: readRuns fuel none more
  | fuel + 1, none, b :: bs =>
    (if b < 0x80 then charOfByte b else replacement) :: readRuns fuel none bs

end DocSpace.Text.Escaped
