import DocSpace.Http.HostName
import DocSpace.Text.Digit
import DocSpace.Text.LetterCase
import DocSpace.Text.Pieces

set_option autoImplicit false

namespace DocSpace.Http

open Text

def percentByte (b : UInt8) : List Char :=
  '%' :: (hexDigits 2 b.toNat).map Char.toUpper

/-- Each byte of a character as a percent sign and two digits. -/
def percent (c : Char) : List Char := (String.utf8EncodeChar c).flatMap percentByte

def escape (isSafe : Char → Bool) (cs : List Char) : List Char :=
  cs.flatMap fun c => if isSafe c then [c] else percent c

def looksNumeric (cs : List Char) : Bool :=
  let parts := pieces '.' cs
  parts.length == 4 && parts.all fun p => !p.isEmpty && p.all Char.isDigit

def isOctet (cs : List Char) : Bool :=
  !cs.isEmpty && cs.length ≤ 3 && cs.all Char.isDigit && (cs.length == 1 || cs.head? != some '0') &&
    cs.foldl (fun n d => 10 * n + (d.toNat - '0'.toNat)) 0 ≤ 255

def isIpv4 (cs : List Char) : Bool :=
  let parts := pieces '.' cs
  parts.length == 4 && parts.all isOctet

def isHextet (cs : List Char) : Bool := !cs.isEmpty && cs.length ≤ 4 && cs.all (isDigitIn 16)

/-- Groups on one side of a gap; the outermost may be empty if it is the only one. -/
def isSide (groups : List (List Char)) : Bool := groups == [[]] || groups.all isHextet

/-- Eight groups between colons. One run of empty groups stands for those that are missing, and
the last two may be written as a small address. -/
def isIpv6Groups (parts : List (List Char)) : Bool :=
  let last := parts.getLastD []
  let (valid, parts) :=
    if last.contains '.' then (isIpv4 last, parts.dropLast ++ [['0'], ['0']]) else (true, parts)
  let inner := parts.tail.dropLast
  let gaps := (inner.filter List.isEmpty).length
  valid && 3 ≤ parts.length && parts.length ≤ 9 &&
    if gaps = 0 then parts.length == 8 && parts.all isHextet
    else
      let before := parts.take (1 + (inner.takeWhile fun p => !p.isEmpty).length)
      let after := parts.drop (before.length + 1)
      let count (side : List (List Char)) : Nat := if side == [[]] then 0 else side.length
      gaps == 1 && isSide before && isSide after && count before + count after ≤ 7

def isIpv6 (cs : List Char) : Bool :=
  let address := cs.takeWhile (· ≠ '%')
  let zone := cs.dropWhile (· ≠ '%')
  !address.contains '/' && (zone.isEmpty || (2 ≤ zone.length && !zone.tail.contains '%')) &&
    isIpv6Groups (pieces ':' address)

def isHostSafe (c : Char) : Bool :=
  c.isAlphanum || "-._~!$&'()*+,;=\"`\x7b\x7d%|\\".toList.contains c

def isBracketed (cs : List Char) : Bool := cs.head? == some '[' && cs.getLast? == some ']'

def encodeHost (cs : List Char) : Except String (List Char) :=
  if cs.isEmpty then .ok []
  else if looksNumeric cs then
    if isIpv4 cs then .ok cs
    else .error ("Invalid IPv4 address: " ++ quoted (String.ofList cs))
  else if isBracketed cs then
    let inner := cs.tail.dropLast
    if isIpv6 inner then .ok inner
    else .error ("Invalid IPv6 address: " ++ quoted (String.ofList cs))
  else if cs.all (·.toNat < 0x80) then .ok (escape isHostSafe (cs.map Char.toLower))
  else
    (asciiName (lower (String.ofList cs)).toList).mapError fun _ =>
      "Invalid IDNA hostname: " ++ quoted (String.ofList cs)

end DocSpace.Http
