import DocSpace.Fault

set_option autoImplicit false

namespace DocSpace.Value

/-- The parts of a value, one after another: the characters of a text, the numbers of bytes, the
keys of a dictionary, the members of an enumeration. -/
def items? : Value → Option (List Value)
  | list vs => some vs
  | tuple vs => some vs
  | dict es => some (es.map (·.1))
  | bytes bs => some (bs.map fun b => int b.toNat)
  | text s => some (s.toList.map fun c => text c.toString)
  | textMember _ _ s => some (s.toList.map fun c => text c.toString)
  | type name => if name = enumType then some enumMembers else none
  | _ => none

def items (v : Value) : Except Fault (List Value) :=
  match v.items? with
  | some vs => .ok vs
  | none => .error (.notIterable v.qualifiedTypeName)

/-- The texts of a sequence that holds nothing else; `index` counts from the whole's start. -/
def textsFrom (index : Nat) : List Value → Except Fault (List String)
  | [] => .ok []
  | v :: vs =>
    match v.asText? with
    | some s => do return s :: (← textsFrom (index + 1) vs)
    | none => .error (.itemNotText index v.qualifiedTypeName)

def join (sep : String) (v : Value) : Except Fault String :=
  match v.items? with
  | some vs => do return Text.joined sep (← textsFrom 0 vs)
  | none => .error .joinsOnlyIterables

def isSequence : Value → Bool
  | list _ | tuple _ => true
  | _ => false

def members : Value → List Value
  | list vs | tuple vs => vs
  | _ => []

end DocSpace.Value
