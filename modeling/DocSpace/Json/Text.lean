import DocSpace.Fault
import DocSpace.Text.Digit

set_option autoImplicit false

namespace DocSpace.Json

open Text

structure Stop where
  cause : JsonFault
  left : Nat

abbrev Taken (α : Type) := α × List Char

def stop {α : Type} (cause : JsonFault) (left : Nat) : Except Stop α := .error ⟨cause, left⟩

/-- A code unit of four digits, with something after it. -/
def readUnit (cs : List Char) : Except Stop (Taken Nat) :=
  match numberIn? 16 (cs.take 4), cs.drop 4 with
  | some n, rest@(_ :: _) => .ok (n, rest)
  | _, _ => stop .badCodeUnit (cs.length + 1)

/-- A character by one code unit, or by two that make a pair. -/
def readUnits (cs : List Char) : Except Stop (Taken Char) := do
  let (high, rest) ← readUnit cs
  match rest with
  | '\\' :: 'u' :: more =>
    if isHighSurrogate high && 5 ≤ more.length then
      let (low, rest') ← readUnit more
      if isLowSurrogate low then
        return (Char.ofNat (0x10000 + (high - 0xd800) * 0x400 + (low - 0xdc00)), rest')
      else return (charOfPoint high, rest)
    else return (charOfPoint high, rest)
  | _ => return (charOfPoint high, rest)

def escapes : List (Char × Char) :=
  [('"', '"'), ('\\', '\\'), ('/', '/'), ('b', '\x08'), ('f', '\x0c'), ('n', '\n'), ('r', '\r'),
    ('t', '\t')]

def readEscape (start : Nat) : List Char → Except Stop (Taken Char)
  | [] => stop .unterminatedText start
  | 'u' :: cs => readUnits cs
  | c :: cs =>
    match escapes.lookup c with
    | some d => .ok (d, cs)
    | none => stop .badEscape (cs.length + 2)

/-- The text up to its closing quote. `start` counts the characters from the opening quote on. -/
def readChars (start : Nat) : Nat → List Char → Except Stop (Taken (List Char))
  | 0, _ | _, [] => stop .unterminatedText start
  | fuel + 1, c :: cs =>
    if c = '"' then .ok ([], cs)
    else if c = '\\' then do
      let (d, rest) ← readEscape start cs
      let (ds, rest) ← readChars start fuel rest
      return (d :: ds, rest)
    else if c.toNat < 0x20 then stop .controlCharacter (cs.length + 1)
    else do
      let (ds, rest) ← readChars start fuel cs
      return (c :: ds, rest)

def readText (cs : List Char) : Except Stop (Taken String) := do
  let (ds, rest) ← readChars (cs.length + 1) cs.length cs
  return (String.ofList ds, rest)

end DocSpace.Json
