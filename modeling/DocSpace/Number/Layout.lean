import DocSpace.Number.Shortest

set_option autoImplicit false

namespace DocSpace.Number

structure Layout where
  infinity : String
  notANumber : String

def Layout.plain : Layout := ⟨"inf", "nan"⟩

def Layout.document : Layout := ⟨"Infinity", "NaN"⟩

def natDigits (n : Nat) : List Char := Nat.toDigits 10 n

def zeros (n : Nat) : List Char := List.replicate n '0'

def exponentText (e : Int) : List Char :=
  let ds := natDigits e.natAbs
  (if e < 0 then '-' else '+') :: zeros (2 - ds.length) ++ ds

/-- Positional from one ten-thousandth up to sixteen digits before the point, with at least one
digit on each side of the point; otherwise one digit, the others, and a power of ten. -/
def Decimal.chars (d : Decimal) : List Char :=
  let ds := natDigits d.digits
  if -4 < d.point ∧ d.point ≤ 16 then
    if d.point ≤ 0 then '0' :: '.' :: zeros (-d.point).toNat ++ ds
    else
      let whole := d.point.toNat
      let rest := ds.drop whole
      ds.take whole ++ zeros (whole - ds.length) ++ '.' :: if rest.isEmpty then ['0'] else rest
  else
    let rest := ds.drop 1
    ds.take 1 ++ (if rest.isEmpty then [] else '.' :: rest) ++ 'e' :: exponentText (d.point - 1)

def natText (n : Nat) : String := String.ofList (natDigits n)

def intText (i : Int) : String :=
  String.ofList ((if i < 0 then ['-'] else []) ++ natDigits i.natAbs)

def doubleText (layout : Layout) : Double → String
  | .finite n m e =>
    String.ofList ((if n then ['-'] else []) ++
      if m = 0 then ['0', '.', '0'] else (shortest m e).chars)
  | .infinite n => (if n then "-" else "") ++ layout.infinity
  | .notANumber => layout.notANumber

end DocSpace.Number
