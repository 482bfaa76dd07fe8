import DocSpace.Value.Basic

set_option autoImplicit false

namespace DocSpace.Value

inductive Numeric where
  | whole (i : Int)
  | double (d : Double)

def Numeric.same : Numeric → Numeric → Bool
  | .whole i, .whole j => i == j
  | .whole i, .double d => d.equalsInt i
  | .double d, .whole i => d.equalsInt i
  | .double d, .double e => d.equals e

def numeric? : Value → Option Numeric
  | bool b => some (.whole (if b then 1 else 0))
  | int i => some (.whole i)
  | intMember _ _ i => some (.whole i)
  | double d => some (.double d)
  | _ => none

/-- Equality of values that hold no others. -/
def sameAtom (v w : Value) : Bool :=
  match v.numeric?, w.numeric? with
  | some m, some n => m.same n
  | some _, none | none, some _ => false
  | none, none =>
    match v.asText?, w.asText? with
    | some s, some t => s == t
    | some _, none | none, some _ => false
    | none, none =>
      match v, w with
      | null, null => true
      | bytes a, bytes b => a == b
      | day a, day b => a == b
      | moment a, moment b => a == b
      | member e n _, member e' n' _ => e == e' && n == n'
      | type a, type b => a == b
      | _, _ => false

mutual

def same : Value → Value → Bool
  | list vs, w => match w with | list ws => sameItems vs ws | _ => false
  | tuple vs, w => match w with | tuple ws => sameItems vs ws | _ => false
  | dict es, w => match w with
    | dict fs => es.length == fs.length && sameEntries es fs
    | _ => false
  | record n fs, w => match w with | record m gs => n == m && sameFields fs gs | _ => false
  | v, w => sameAtom v w

def sameItems : List Value → List Value → Bool
  | [], [] => true
  | v :: vs, w :: ws => same v w && sameItems vs ws
  | _, _ => false

/-- Every entry has one of equal key and value on the other side, in any order. -/
def sameEntries : List (Value × Value) → List (Value × Value) → Bool
  | [], _ => true
  | (k, v) :: es, fs => fs.any (fun f => same k f.1 && same v f.2) && sameEntries es fs

def sameFields : List (String × Value) → List (String × Value) → Bool
  | [], [] => true
  | (k, v) :: fs, (k', w) :: gs => k == k' && same v w && sameFields fs gs
  | _, _ => false

end

def isText (v : Value) (s : String) : Bool := v.asText? == some s

mutual

/-- The type of the part that keeps a value from being a key, if one does. -/
def unhashable? : Value → Option String
  | list vs => some (list vs).typeName
  | dict es => some (dict es).typeName
  | record n _ => some n
  | tuple vs => unhashableItem? vs
  | _ => none

def unhashableItem? : List Value → Option String
  | [] => none
  | v :: vs => unhashable? v <|> unhashableItem? vs

end

end DocSpace.Value
