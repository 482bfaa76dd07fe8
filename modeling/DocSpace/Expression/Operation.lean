import DocSpace.Expression.Meaning
import DocSpace.Fault

set_option autoImplicit false

namespace DocSpace

/-- Why an expression has no meaning: it is at fault, or meanings have none of what it says. -/
inductive Setback where
  | fault (f : Fault)
  | unfamiliar

abbrev Evaluated (α : Type) := Except Setback α

namespace Meaning

def faulty {α : Type} (f : Fault) : Evaluated α := .error (.fault f)

def atFault {α : Type} (f : ExpressionFault) : Evaluated α := faulty (.expression f)

def unfamiliar {α : Type} : Evaluated α := .error .unfamiliar

/-- Truth values count as numbers. -/
def asWhole? : Meaning → Option Int
  | bool b => some (if b then 1 else 0)
  | whole i => some i
  | _ => none

def asQuotient? : Meaning → Option (Int × Nat)
  | double (.finite n m e) => some (Double.quotient n m e)
  | m => m.asWhole?.map fun i => (i, 1)

def ofQuotient (q : Int × Nat) : Meaning :=
  double (Double.ofQuotient (q.1 < 0) q.1.natAbs q.2)

/-- Greatest number of digits, or items, that an operation makes. -/
def sizeLimit : Nat := 4000

def wholeOperation (mark : String) (i j : Int) : Evaluated Meaning :=
  match mark with
  | "+" => .ok (whole (i + j))
  | "-" => .ok (whole (i - j))
  | "*" => .ok (whole (i * j))
  | "//" => if j = 0 then atFault (.zeroDivisor mark) else .ok (whole (i.fdiv j))
  | "%" => if j = 0 then atFault (.zeroDivisor mark) else .ok (whole (i.fmod j))
  | "/" =>
    if j = 0 then atFault (.zeroDivisor mark)
    else .ok (ofQuotient (if j < 0 then -i else i, j.natAbs))
  | "**" => if 0 ≤ j ∧ j ≤ sizeLimit then .ok (whole (Int.pow i j.toNat)) else unfamiliar
  | "<<" =>
    if j < 0 then atFault .negativeShift
    else if j ≤ sizeLimit then .ok (whole (i * (1 <<< j.toNat : Nat)))
    else unfamiliar
  | ">>" => if j < 0 then atFault .negativeShift else .ok (whole (i >>> j.toNat))
  | "|" => bitwise (· ||| ·)
  | "&" => bitwise (· &&& ·)
  | "^" => bitwise (· ^^^ ·)
  | _ => atFault (.operands mark (whole i).typeName (whole j).typeName)
where
  bitwise (f : Nat → Nat → Nat) : Evaluated Meaning :=
    if 0 ≤ i ∧ 0 ≤ j then .ok (whole (f i.toNat j.toNat)) else unfamiliar

/-- Operations on quotients, one of which comes from a floating point number. -/
def quotientOperation (mark : String) (l r : Meaning) (p q : Int × Nat) : Evaluated Meaning :=
  match mark with
  | "+" => .ok (ofQuotient (p.1 * q.2 + q.1 * p.2, p.2 * q.2))
  | "-" => .ok (ofQuotient (p.1 * q.2 - q.1 * p.2, p.2 * q.2))
  | "*" => .ok (ofQuotient (p.1 * q.1, p.2 * q.2))
  | "/" =>
    if q.1 = 0 then atFault (.zeroDivisor "float /")
    else .ok (ofQuotient (if q.1 < 0 then -(p.1 * q.2) else p.1 * q.2, p.2 * q.1.natAbs))
  | "//" | "%" | "**" => unfamiliar
  | _ => atFault (.operands mark l.typeName r.typeName)

/-- Numbers are the same by value, and other meanings by their looks. -/
def same (l r : Meaning) : Bool :=
  match l.asQuotient?, r.asQuotient? with
  | some (a, b), some (c, d) => a * d == c * b
  | _, _ => l.display == r.display

/-- What is joined and repeated, as a list of parts and a way back. -/
def asSequence? : Meaning → Option (Nat × (Nat → Meaning))
  | text s => some (s.length, fun n => text (String.join (List.replicate n s)))
  | bytes bs => some (bs.length, fun n => bytes (List.replicate n bs).flatten)
  | tuple ms => some (ms.length, fun n => tuple (List.replicate n ms).flatten)
  | list ms => some (ms.length, fun n => list (List.replicate n ms).flatten)
  | _ => none

def repeated (size : Nat) (copies : Nat → Meaning) (times : Meaning) : Evaluated Meaning :=
  match times.asWhole? with
  | some n => if size * n.toNat ≤ sizeLimit then .ok (copies n.toNat) else unfamiliar
  | none => atFault (.notACount times.typeName)

def appended (l r : Meaning) : Evaluated Meaning :=
  match l, r with
  | text a, text b => .ok (text (a ++ b))
  | bytes a, bytes b => .ok (bytes (a ++ b))
  | tuple a, tuple b => .ok (tuple (a ++ b))
  | list a, list b => .ok (list (a ++ b))
  | _, _ => atFault (.notAppendable l.typeName r.typeName)

def insertEntry (key m : Meaning) : List (Meaning × Meaning) → List (Meaning × Meaning)
  | [] => [(key, m)]
  | (k, n) :: es => if same k key then (k, m) :: es else (k, n) :: insertEntry key m es

/-- What a mark stands for between types, dictionaries or sets. -/
def joined (mark : String) (l r : Meaning) : Evaluated Meaning :=
  match mark, l, r with
  | "|", dict a, dict b => .ok (dict (b.foldl (fun es e => insertEntry e.1 e.2 es) a))
  | "%", text _, _ | "%", bytes _, _ => unfamiliar
  | "|", set _, set _ | "&", set _, set _ | "^", set _, set _ | "-", set _, set _ => unfamiliar
  | "|", l, r =>
    if l.isUnionable && r.isUnionable && !(l.isNull && r.isNull) then .ok (unionOf [l, r])
    else atFault (.operands mark l.typeName r.typeName)
  | _, l, r =>
    atFault (.operands (if mark = "**" then "** or pow()" else mark) l.typeName r.typeName)

def operate (mark : String) (l r : Meaning) : Evaluated Meaning :=
  match l.asWhole?, r.asWhole?, l.asQuotient?, r.asQuotient? with
  | some i, some j, _, _ => do
    let m ← wholeOperation mark i j
    match l, r, m with
    | bool _, bool _, whole k =>
      return if mark ∈ ["|", "&", "^"] then bool (k ≠ 0) else whole k
    | _, _, m => return m
  | _, _, some p, some q => quotientOperation mark l r p q
  | _, _, _, _ =>
    match mark, l.asSequence?, r.asSequence? with
    | "+", some _, _ => appended l r
    | "*", some (size, copies), _ => repeated size copies r
    | "*", none, some (size, copies) => repeated size copies l
    | _, _, _ => joined mark l r

def sign (mark : String) (m : Meaning) : Evaluated Meaning :=
  match mark, m, m.asWhole? with
  | "+", _, some i => .ok (whole i)
  | "-", _, some i => .ok (whole (-i))
  | "~", _, some i => .ok (whole (-i - 1))
  | "+", double d, _ => .ok (double d)
  | "-", double (.finite n k e), _ => .ok (double (.finite (!n) k e))
  | "-", double (.infinite n), _ => .ok (double (.infinite !n))
  | "-", double .notANumber, _ => .ok m
  | _, _, _ => atFault (.operand mark m.typeName)

/-- Whether `l` stands before `r`, and whether after it, where there is an order. -/
def precedes? (l r : Meaning) : Option (Bool × Bool) :=
  match l, r, l.asQuotient?, r.asQuotient? with
  | _, _, some (a, b), some (c, d) => some (decide (a * d < c * b), decide (c * b < a * d))
  | text a, text b, _, _ => some (decide (a < b), decide (b < a))
  | _, _, _, _ => none

/-- Pairs that are ordered by their first difference. -/
def areAlike : Meaning → Meaning → Bool
  | tuple _, tuple _ | list _, list _ | bytes _, bytes _ | set _, set _ => true
  | _, _ => false

def inOrder (mark : String) (before after : Bool) : Bool :=
  if mark = "<" then before else if mark = ">" then after else if mark = "<=" then !after
  else !before

def standsIn (part whole : List Char) : Bool :=
  match whole with
  | [] => part.isEmpty
  | _ :: cs => part.isPrefixOf whole || standsIn part cs

def isIn (l r : Meaning) : Evaluated Bool :=
  match l, r with
  | text a, text b => .ok (standsIn a.toList b.toList)
  | l, text _ => atFault (.notTextIn l.typeName)
  | l, tuple ms | l, list ms | l, set ms => .ok (ms.any (same l))
  | l, dict es => .ok (es.any fun e => same l e.1)
  | l, generic c ms => .ok (same l (unpacked (generic c ms)))
  | _, bytes _ => unfamiliar
  | _, r => atFault (.holdsNothing r.typeName)

def compare (mark : String) (l r : Meaning) : Evaluated Meaning :=
  match mark with
  | "==" | "is" => .ok (bool (same l r))
  | "!=" | "is not" => .ok (bool !(same l r))
  | "in" => do return bool (← isIn l r)
  | "not in" => do return bool !(← isIn l r)
  | _ =>
    match precedes? l r with
    | some (before, after) => .ok (bool (inOrder mark before after))
    | none =>
      if areAlike l r then unfamiliar else faulty (.notOrdered mark l.typeName r.typeName)

end Meaning

end DocSpace
