import DocSpace.Number.Layout

set_option autoImplicit false

namespace DocSpace

structure Day where
  year : Nat
  month : Nat
  day : Nat
  deriving DecidableEq

structure Moment where
  day : Day
  hour : Nat
  minute : Nat
  second : Nat
  micro : Nat
  deriving DecidableEq

def padded (width n : Nat) : String :=
  let ds := Number.natDigits n
  String.ofList (Number.zeros (width - ds.length) ++ ds)

def Day.text (d : Day) : String :=
  padded 4 d.year ++ "-" ++ padded 2 d.month ++ "-" ++ padded 2 d.day

/-- Microseconds are left out when there are none. -/
def Moment.text (m : Moment) : String :=
  m.day.text ++ " " ++ padded 2 m.hour ++ ":" ++ padded 2 m.minute ++ ":" ++ padded 2 m.second ++
    if m.micro = 0 then "" else "." ++ padded 6 m.micro

def Day.parts (d : Day) : List Nat := [d.year, d.month, d.day]

/-- Seconds and microseconds only as far as they are not zero. -/
def Moment.parts (m : Moment) : List Nat :=
  m.day.parts ++ [m.hour, m.minute] ++
    if m.micro ≠ 0 then [m.second, m.micro] else if m.second ≠ 0 then [m.second] else []

end DocSpace
