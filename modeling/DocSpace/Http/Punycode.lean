set_option autoImplicit false

namespace DocSpace.Http

/-- Twenty-six letters, then ten digits. -/
def punycodeDigit (n : Nat) : Char :=
  if n < 26 then Char.ofNat ('a'.toNat + n) else Char.ofNat ('0'.toNat + (n - 26))

/-- Divides `delta` down; `fuel` bounds the divisions. -/
def adaptFrom : Nat → Nat → Nat → Nat
  | 0, k, delta => k + 36 * delta / (delta + 38)
  | fuel + 1, k, delta =>
    if 455 < delta then adaptFrom fuel (k + 36) (delta / 35) else k + 36 * delta / (delta + 38)

def adapt (delta count : Nat) (first : Bool) : Nat :=
  let delta := if first then delta / 700 else delta / 2
  adaptFrom delta 0 (delta + delta / count)

def threshold (bias k : Nat) : Nat :=
  if k ≤ bias then 1 else if bias + 26 ≤ k then 26 else k - bias

/-- A number with digits of changing weight, the last below its threshold. -/
def variableDigits (bias : Nat) : Nat → Nat → Nat → List Char
  | 0, _, _ => []
  | fuel + 1, k, n =>
    let t := threshold bias k
    if n < t then [punycodeDigit n]
    else punycodeDigit (t + (n - t) % (36 - t)) ::
      variableDigits bias fuel (k + 36) ((n - t) / (36 - t))

structure PunycodeState where
  delta : Nat
  bias : Nat
  written : Nat
  output : List Char

/-- Goes over the label once for the code point `next`; `basic` characters were written before. -/
def writePoint (basic next : Nat) (s : PunycodeState) (c : Char) : PunycodeState :=
  if c.toNat < next then { s with delta := s.delta + 1 }
  else if c.toNat = next then
    { delta := 0
      bias := adapt s.delta (s.written + 1) (s.written == basic)
      written := s.written + 1
      output := s.output ++ variableDigits s.bias (s.delta + 1) 36 s.delta }
  else s

/-- Writes the code points from `n` on in increasing order. -/
def writePoints (cs : List Char) (basic : Nat) : Nat → Nat → PunycodeState → PunycodeState
  | 0, _, s => s
  | fuel + 1, n, s =>
    match (cs.filterMap fun c => if n ≤ c.toNat then some c.toNat else none).min? with
    | none => s
    | some next =>
      let s := { s with delta := s.delta + (next - n) * (s.written + 1) }
      let s := cs.foldl (writePoint basic next) s
      writePoints cs basic fuel (next + 1) { s with delta := s.delta + 1 }

def punycode (cs : List Char) : List Char :=
  let basic := cs.filter (·.toNat < 0x80)
  let start : PunycodeState :=
    ⟨0, 72, basic.length, if basic.isEmpty then [] else basic ++ ['-']⟩
  (writePoints cs basic.length cs.length 0x80 start).output

def digitValue? (c : Char) : Option Nat :=
  if 'a' ≤ c ∧ c ≤ 'z' then some (c.toNat - 'a'.toNat)
  else if c.isDigit then some (c.toNat - '0'.toNat + 26)
  else none

/-- Reads a number that `variableDigits` writes, and what follows it. -/
def readVariable? (bias k weight : Nat) : List Char → Option (Nat × List Char)
  | [] => none
  | c :: cs => do
    let digit ← digitValue? c
    let t := threshold bias k
    if digit < t then return (digit * weight, cs)
    else
      let (rest, cs) ← readVariable? bias (k + 36) (weight * (36 - t)) cs
      return (digit * weight + rest, cs)

def maxPoint : Nat := 0x10ffff

/-- Code points with the next one put in: `point` and `position` tell where the last one went. -/
def insertPoints : Nat → Nat → Nat → Nat → Bool → List Nat → List Char → Option (List Nat)
  | _, _, _, _, _, ns, [] => some ns
  | 0, _, _, _, _, _, _ => none
  | fuel + 1, bias, point, position, first, ns, cs => do
    let (delta, rest) ← readVariable? bias 36 1 cs
    let count := ns.length + 1
    let point := point + (position + delta) / count
    if maxPoint < point then none
    else
      let place := (position + delta) % count
      insertPoints fuel (adapt delta count first) point (place + 1) false
        (ns.take place ++ point :: ns.drop place) rest

/-- Cuts at the last hyphen; without one, all is the second part. -/
def splitAtLastHyphen (cs : List Char) : List Char × List Char :=
  if cs.contains '-' then
    let tail := (cs.reverse.takeWhile (· ≠ '-')).reverse
    (cs.take (cs.length - tail.length - 1), tail)
  else ([], cs)

def unpunycode? (cs : List Char) : Option (List Nat) :=
  let (basic, extended) := splitAtLastHyphen cs
  insertPoints extended.length 72 0x80 0 true (basic.map Char.toNat) extended

end DocSpace.Http
