import DocSpace.Text.Quoted

set_option autoImplicit false

namespace DocSpace.Json

open Text

def unitEscape (n : Nat) : List Char := '\\' :: 'u' :: hexDigits 4 n

/-- Beyond the first plane a character takes two units. -/
def codeUnits (n : Nat) : List Nat :=
  if n < 0x10000 then [n]
  else [0xd800 + (n - 0x10000) / 0x400, 0xdc00 + (n - 0x10000) % 0x400]

def escapeChar (asciiOnly : Bool) (c : Char) : List Char :=
  if c = '"' ∨ c = '\\' then ['\\', c]
  else if c = '\n' then ['\\', 'n']
  else if c = '\r' then ['\\', 'r']
  else if c = '\t' then ['\\', 't']
  else if c = '\x08' then ['\\', 'b']
  else if c = '\x0c' then ['\\', 'f']
  else if c.toNat < 0x20 ∨ (asciiOnly ∧ 0x7f ≤ c.toNat) then
    (codeUnits c.toNat).flatMap unitEscape
  else [c]

def encodeText (asciiOnly : Bool) (s : String) : String :=
  String.ofList ('"' :: s.toList.flatMap (escapeChar asciiOnly) ++ ['"'])

end DocSpace.Json
