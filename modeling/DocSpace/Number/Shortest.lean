import DocSpace.Number.Double

set_option autoImplicit false

namespace DocSpace.Number

open Double

/-- A positive number `0.d₁d₂… × 10 ^ point`; the digits as one whole number, the first not zero. -/
structure Decimal where
  digits : Nat
  point : Int
  deriving DecidableEq

/-- The `point` with `10 ^ (point - 1) ≤ num / den < 10 ^ point`. -/
def decimalPoint (num den : Nat) : Int :=
  if den ≤ num then (Nat.toDigits 10 (num / den)).length
  else 1 - ((Nat.toDigits 10 ((den - 1) / num)).length : Int)

/-- The numbers that round to one mantissa, in quarters of its last bit. The ends belong to it
when the mantissa is even, and the step below a power of two is half as long. -/
structure Neighbourhood where
  low : Nat
  value : Nat
  high : Nat
  closed : Bool

def Neighbourhood.of (mantissa : Nat) (exponent : Int) : Neighbourhood where
  low := 4 * mantissa - if mantissa = pow2 52 ∧ -1074 < exponent then 1 else 2
  value := 4 * mantissa
  high := 4 * mantissa + 2
  closed := mantissa % 2 == 0

/-- Whether `candidate * unit` lies inside, all numbers being multiples of one common part. -/
def Neighbourhood.holds (n : Neighbourhood) (part unit candidate : Nat) : Bool :=
  let x := candidate * unit
  if n.closed then n.low * part ≤ x && x ≤ n.high * part
  else n.low * part < x && x < n.high * part

/-- The nearest point inside of the grid of multiples of `unit`, if any is. -/
def Neighbourhood.nearest? (n : Neighbourhood) (part unit : Nat) : Option Nat :=
  let below := n.value * part / unit
  match n.holds part unit below, n.holds part unit (below + 1) with
  | true, true =>
    let twice := 2 * (n.value * part - below * unit)
    if twice < unit then some below
    else if unit < twice then some (below + 1)
    else some (below + below % 2)
  | true, false => some below
  | false, true => some (below + 1)
  | false, false => none

/-- Tries `count`, `count + 1`, ... digits. -/
def fewestDigits (n : Neighbourhood) (exponent point : Int) : Nat → Nat → Option Decimal
  | 0, _ => none
  | fuel + 1, count =>
    let power := point - count
    let part := pow2 (exponent - 2).toNat * pow10 (-power).toNat
    let unit := pow2 (2 - exponent).toNat * pow10 power.toNat
    match n.nearest? part unit with
    | some d => some (if d = pow10 count then ⟨1, point + 1⟩ else ⟨d, point⟩)
    | none => fewestDigits n exponent point fuel (count + 1)

/-- Seventeen digits always suffice. -/
def shortest (mantissa : Nat) (exponent : Int) : Decimal :=
  let point := decimalPoint (mantissa * pow2 exponent.toNat) (pow2 (-exponent).toNat)
  (fewestDigits (.of mantissa exponent) exponent point 17 1).getD ⟨0, point⟩

end DocSpace.Number
