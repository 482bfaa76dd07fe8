set_option autoImplicit false

namespace DocSpace

/-- A finite number is its mantissa times two to its exponent. Numbers made here have a mantissa
below `2 ^ 53` and the least exponent, from `-1074` on, that keeps it there. -/
inductive Double where
  | finite (negative : Bool) (mantissa : Nat) (exponent : Int)
  | infinite (negative : Bool)
  | notANumber
  deriving DecidableEq

namespace Double

def pow2 (n : Nat) : Nat := Nat.pow 2 n

def pow10 (n : Nat) : Nat := Nat.pow 10 n

/-- Nearest whole number to a quotient; a half goes to the even neighbour. -/
def roundQuotient (num den : Nat) : Nat :=
  let q := num / den
  let twice := 2 * (num % den)
  if twice < den then q else if den < twice then q + 1 else q + q % 2

def scaleDown (num den : Nat) (exponent : Int) : Nat × Nat :=
  (num * pow2 (-exponent).toNat, den * pow2 exponent.toNat)

/-- Exponent that leaves a mantissa of 53 bits, or fewer at the bottom of the range. -/
def exponentOf (num den : Nat) : Int :=
  let e : Int := (num.log2 : Int) - den.log2 - 53
  let (n, d) := scaleDown num den e
  max (-1074) (if n / d < pow2 53 then e else e + 1)

/-- Number nearest to a quotient of whole numbers. -/
def ofQuotient (negative : Bool) (num den : Nat) : Double :=
  if num = 0 then finite negative 0 (-1074) else
    let e := exponentOf num den
    let (n, d) := scaleDown num den e
    let m := roundQuotient n d
    let (m, e) := if m < pow2 53 then (m, e) else (m / 2, e + 1)
    if 971 < e then infinite negative else finite negative m e

/-- Number nearest to `digits` times a power of ten. Far outside the range the power is not
worked out. -/
def ofDecimal (negative : Bool) (digits : Nat) (power : Int) : Double :=
  let top := power + (Nat.toDigits 10 digits).length
  if digits = 0 ∨ top < -330 then finite negative 0 (-1074)
  else if 330 < top then infinite negative
  else ofQuotient negative (digits * pow10 power.toNat) (pow10 (-power).toNat)

def isZero : Double → Bool
  | finite _ m _ => m == 0
  | _ => false

def quotient (negative : Bool) (mantissa : Nat) (exponent : Int) : Int × Nat :=
  let m : Int := mantissa * pow2 exponent.toNat
  (if negative then -m else m, pow2 (-exponent).toNat)

def equalsInt : Double → Int → Bool
  | finite n m e, i => let (num, den) := quotient n m e; num == i * den
  | _, _ => false

/-- Equality of values: the two zeros are equal, and what is not a number equals nothing. -/
def equals : Double → Double → Bool
  | finite n m e, finite n' m' e' =>
    let (a, b) := quotient n m e
    let (c, d) := quotient n' m' e'
    a * d == c * b
  | infinite n, infinite n' => n == n'
  | _, _ => false

/-- Whether the value is zero or below; false for what is not a number. -/
def isAtMostZero : Double → Bool
  | finite n m _ => n || m == 0
  | infinite n => n
  | notANumber => false

end Double

end DocSpace
