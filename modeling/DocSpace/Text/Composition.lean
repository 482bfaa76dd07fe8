import DocSpace.Text.CombiningClass
import DocSpace.Text.Composition.Table

set_option autoImplicit false

namespace DocSpace.Text

def firstSyllable : Nat := 0xac00

def syllableCount : Nat := 11172

def leadBase : Nat := 0x1100

def vowelBase : Nat := 0x1161

/-- One below the first trailing consonant. -/
def trailBase : Nat := 0x11a7

def isSyllable (n : Nat) : Bool := firstSyllable ≤ n && n < firstSyllable + syllableCount

def splitSyllable (n : Nat) : List Nat :=
  let i := n - firstSyllable
  let trail := i % 28
  [leadBase + i / 588, vowelBase + i % 588 / 28] ++ if trail = 0 then [] else [trailBase + trail]

def joinSyllable? (a b : Nat) : Option Nat :=
  if leadBase ≤ a ∧ a < leadBase + 19 ∧ vowelBase ≤ b ∧ b < vowelBase + 21 then
    some (firstSyllable + ((a - leadBase) * 21 + (b - vowelBase)) * 28)
  else if isSyllable a ∧ (a - firstSyllable) % 28 = 0 ∧ trailBase < b ∧ b < trailBase + 28 then
    some (a + (b - trailBase))
  else none

/-- What a code point stands for, taken apart `fuel` times at most. -/
def takeApart : Nat → Nat → List Nat
  | 0, n => [n]
  | fuel + 1, n =>
    if isSyllable n then splitSyllable n
    else
      match singletons.find? fun e => e.1 == n with
      | some e => takeApart fuel e.2
      | none =>
        match pairs.find? fun e => e.1 == n with
        | some e => takeApart fuel e.2.1 ++ [e.2.2]
        | none => [n]

/-- No character has more layers than this. -/
def layers : Nat := 4

/-- A run of marks in the order of their classes; marks of one class stay in their order. -/
def sortMarks (ns : List Nat) : List Nat :=
  ns.mergeSort fun a b => combiningClass a ≤ combiningClass b

/-- Puts the marks after every character in order; `marks` are those met since the last one, in
reverse. -/
def orderMarks (marks : List Nat) : List Nat → List Nat
  | [] => sortMarks marks.reverse
  | n :: ns =>
    if combiningClass n = 0 then sortMarks marks.reverse ++ n :: orderMarks [] ns
    else orderMarks (n :: marks) ns

def compose? (a b : Nat) : Option Nat :=
  joinSyllable? a b <|>
    (pairs.find? fun e => e.2.1 == a && e.2.2 == b && !uncomposed.contains e.1).map (·.1)

/-- The last character that others may combine with, and the marks after it that do not, in
reverse. -/
structure Cluster where
  base : Option Nat
  marks : List Nat

def Cluster.points (c : Cluster) : List Nat := c.base.toList ++ c.marks.reverse

/-- A mark of the same class in between keeps another from combining. -/
def Cluster.isOpen (c : Cluster) (n : Nat) : Bool :=
  match c.marks with
  | [] => true
  | m :: _ => combiningClass m < combiningClass n

def Cluster.combine? (c : Cluster) (n : Nat) : Option Nat :=
  if c.isOpen n then c.base.bind fun b => compose? b n else none

def composeFrom (c : Cluster) : List Nat → List Nat
  | [] => c.points
  | n :: ns =>
    match c.combine? n with
    | some base => composeFrom { c with base := some base } ns
    | none =>
      if combiningClass n = 0 then c.points ++ composeFrom ⟨some n, []⟩ ns
      else composeFrom { c with marks := n :: c.marks } ns

def composed (ns : List Nat) : List Nat :=
  composeFrom ⟨none, []⟩ (orderMarks [] (ns.flatMap (takeApart layers)))

end DocSpace.Text
