import DocSpace.Value.Entries
import DocSpace.Value.Method
import DocSpace.Value.Sequence

set_option autoImplicit false

namespace DocSpace

namespace Document

mutual

/-- Records as dictionaries, inside lists, tuples and dictionaries too. -/
def unpack : Value → Value
  | .record _ fs => .dict (unpackFields fs)
  | .list vs => .list (unpackItems vs)
  | .tuple vs => .tuple (unpackItems vs)
  | .dict es => .dict (unpackEntries es)
  | v => v

def unpackFields : List (String × Value) → List (Value × Value)
  | [] => []
  | (name, v) :: fs => (.text name, unpack v) :: unpackFields fs

def unpackItems : List Value → List Value
  | [] => []
  | v :: vs => unpack v :: unpackItems vs

def unpackEntries : List (Value × Value) → List (Value × Value)
  | [] => []
  | (k, v) :: es => (unpack k, unpack v) :: unpackEntries es

end

def pair (index : Nat) (v : Value) : Except Fault (Value × Value) :=
  match v.items? with
  | none => .error (.pairNotSequence index)
  | some [k, w] =>
    match k.unhashable? with
    | some type => .error (.unhashable type)
    | none => .ok (k, w)
  | some vs => .error (.pairLength index vs.length)

def pairsFrom (index : Nat) : List Value → Except Fault (List (Value × Value))
  | [] => .ok []
  | v :: vs => do return (← pair index v) :: (← pairsFrom (index + 1) vs)

/-- The fields of a document. The type of dictionaries is taken for one, but holds no keys. -/
def fields (v : Value) : Except Fault Entries :=
  match v with
  | .record _ fs => .ok (unpackFields fs)
  | .dict es => .ok es
  | .type name =>
    if Value.hasMethod (Value.methodOwner name) "keys" then .error (v.lacking "keys" none)
    else do return .ofList (← pairsFrom 0 (← v.items))
  | _ => do return .ofList (← pairsFrom 0 (← v.items))

end Document

end DocSpace
