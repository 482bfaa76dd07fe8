import DocSpace.Json.Text
import DocSpace.Number.Numeral
import DocSpace.Value.Entries

set_option autoImplicit false

namespace DocSpace.Json

open Number Text

/-- A numeral's sign, digits before the point, digits after it, and exponent. Without the last
two it is a whole number. -/
structure Numeral where
  negative : Bool
  whole : List Char
  fraction : List Char
  exponent : Option Int

def spanDigits (cs : List Char) : List Char × List Char :=
  (cs.takeWhile Char.isDigit, cs.dropWhile Char.isDigit)

def takeMinus : List Char → Bool × List Char
  | '-' :: cs => (true, cs)
  | cs => (false, cs)

/-- Digits before the point: a zero alone, or others that do not start with one. -/
def readWhole? : List Char → Option (List Char × List Char)
  | '0' :: cs => some (['0'], cs)
  | cs =>
    match spanDigits cs with
    | ([], _) => none
    | (ds, rest) => some (ds, rest)

def readFraction : List Char → List Char × List Char
  | '.' :: cs =>
    match spanDigits cs with
    | ([], _) => ([], '.' :: cs)
    | (ds, rest) => (ds, rest)
  | cs => ([], cs)

def readPower : List Char → Option Int × List Char
  | c :: cs =>
    if c = 'e' ∨ c = 'E' then
      let (negative, ds) := takeSign cs
      match spanDigits ds with
      | ([], _) => (none, c :: cs)
      | (ds, rest) => (some (signed negative (digitsValue ds)), rest)
    else (none, c :: cs)
  | [] => (none, [])

def readNumeral? (cs : List Char) : Option (Numeral × List Char) := do
  let (negative, cs) := takeMinus cs
  let (whole, cs) ← readWhole? cs
  let (fraction, cs) := readFraction cs
  let (exponent, cs) := readPower cs
  return (⟨negative, whole, fraction, exponent⟩, cs)

def Numeral.isWhole (n : Numeral) : Bool := n.fraction.isEmpty && n.exponent.isNone

def Numeral.value (n : Numeral) : Value :=
  if n.isWhole then .int (signed n.negative (digitsValue n.whole))
  else .double (.ofDecimal n.negative (digitsValue (n.whole ++ n.fraction))
    (n.exponent.getD 0 - n.fraction.length))

def words : List (String × Value) :=
  [("null", .null), ("true", .bool true), ("false", .bool false), ("NaN", .double .notANumber),
    ("Infinity", .double (.infinite false)), ("-Infinity", .double (.infinite true))]

def readWord? (cs : List Char) : Option (Value × List Char) :=
  (words.find? fun w => w.1.toList.isPrefixOf cs).map fun w => (w.2, cs.drop w.1.length)

def isJsonBlank (c : Char) : Bool := c == ' ' || c == '\t' || c == '\n' || c == '\r'

def skipBlanks (cs : List Char) : List Char := cs.dropWhile isJsonBlank

/-- Why a document cannot be read: it stops being JSON, or holds a whole number that is too long
or a container that is too deep. -/
inductive Refusal where
  | stop (s : Stop)
  | tooManyDigits (count : Nat)
  | tooDeep (container : String)

def halt {α : Type} (cause : JsonFault) (cs : List Char) : Except Refusal α :=
  .error (.stop ⟨cause, cs.length⟩)

def readAtom (cs : List Char) : Except Refusal (Taken Value) :=
  match readWord? cs with
  | some r => .ok r
  | none =>
    match readNumeral? cs with
    | some (n, rest) =>
      if n.isWhole && maxDigits < n.whole.length then .error (.tooManyDigits n.whole.length)
      else .ok (n.value, rest)
    | none => halt .expectingValue cs

def readName : List Char → Except Refusal (Taken String)
  | '"' :: cs => do
    let (name, rest) ← (readText cs).mapError .stop
    match skipBlanks rest with
    | ':' :: rest => return (name, skipBlanks rest)
    | rest => halt .expectingColon rest
  | cs => halt .expectingName cs

mutual

/-- One value from its first character on; `room` says how deep containers may go. -/
def readValue (room : Nat) : Nat → List Char → Except Refusal (Taken Value)
  | 0, cs => halt .expectingValue cs
  | fuel + 1, cs =>
    match cs with
    | '"' :: rest => do
      let (s, rest) ← (readText rest).mapError .stop
      return (.text s, rest)
    | '[' :: rest =>
      if room = 0 then .error (.tooDeep "array")
      else
        match skipBlanks rest with
        | ']' :: rest => return (.list [], rest)
        | rest => do
          let (vs, rest) ← readItems (room - 1) fuel rest
          return (.list vs, rest)
    | '\x7b' :: rest =>
      if room = 0 then .error (.tooDeep "object")
      else
        match skipBlanks rest with
        | '\x7d' :: rest => return (.dict [], rest)
        | rest => do
          let (es, rest) ← readMembers (room - 1) fuel rest
          return (.dict (Entries.ofList es), rest)
    | cs => readAtom cs

def readItems (room : Nat) : Nat → List Char → Except Refusal (Taken (List Value))
  | 0, cs => halt .expectingValue cs
  | fuel + 1, cs => do
    let (v, rest) ← readValue room fuel cs
    match skipBlanks rest with
    | ']' :: rest => return ([v], rest)
    | ',' :: rest =>
      let (vs, rest) ← readItems room fuel (skipBlanks rest)
      return (v :: vs, rest)
    | rest => halt .expectingComma rest

def readMembers (room : Nat) : Nat → List Char → Except Refusal (Taken (List (Value × Value)))
  | 0, cs => halt .expectingName cs
  | fuel + 1, cs => do
    let (name, rest) ← readName cs
    let (v, rest) ← readValue room fuel rest
    match skipBlanks rest with
    | '\x7d' :: rest => return ([(.text name, v)], rest)
    | ',' :: rest =>
      let (es, rest) ← readMembers room fuel (skipBlanks rest)
      return ((.text name, v) :: es, rest)
    | rest => halt .expectingComma rest

end

/-- A whole document: one value, with nothing but blanks around it. Reading a value takes at
least one character for every step, so twice the length is fuel enough. -/
def readDocument (room : Nat) (cs : List Char) : Except Refusal Value := do
  let (v, rest) ← readValue room (2 * cs.length + 1) (skipBlanks cs)
  match skipBlanks rest with
  | [] => return v
  | rest => .error (.stop ⟨.extraData, rest.length⟩)

def Refusal.fault (cs : List Char) : Refusal → Fault
  | stop s => .json s.cause (Place.after (cs.take (cs.length - s.left)))
  | tooManyDigits n => .tooManyDigits n
  | tooDeep container => .tooDeep container

/-- No document nests deeper than it is long. -/
def decode (s : String) : Except Fault Value :=
  let cs := s.toList
  (readDocument cs.length cs).mapError (Refusal.fault cs)

def maxDepth : Nat := 975

/-- The encoding that the zeros among the first bytes show. -/
def detectByZeros : List UInt8 → Encoding
  | [0, _] => .utf16 .big
  | [_, 0] => .utf16 .little
  | 0 :: b :: _ :: _ :: _ => if b = 0 then .utf32 .big else .utf16 .big
  | _ :: 0 :: c :: d :: _ => if c = 0 ∧ d = 0 then .utf32 .little else .utf16 .little
  | _ => .utf8

/-- A mark of byte order shows the encoding; where zeros stand shows it otherwise. The number is
the place of the first byte of the text, which counts only marks of wide characters. -/
def detect (bs : List UInt8) : Encoding × Nat × List UInt8 :=
  match bs with
  | 0 :: 0 :: 0xfe :: 0xff :: rest => (.utf32 .big, 4, rest)
  | 0xff :: 0xfe :: 0 :: 0 :: rest => (.utf32 .little, 4, rest)
  | 0xfe :: 0xff :: rest => (.utf16 .big, 2, rest)
  | 0xff :: 0xfe :: rest => (.utf16 .little, 2, rest)
  | 0xef :: 0xbb :: 0xbf :: rest => (.utf8, 0, rest)
  | bs => (detectByZeros bs, 0, bs)

def decodeBytes (bs : List UInt8) : Except Fault Value := do
  let (encoding, place, bs) := detect bs
  let s ← (encoding.decode place bs).mapError .encoding
  let cs := s.toList
  (readDocument maxDepth cs).mapError (Refusal.fault cs)

end DocSpace.Json
