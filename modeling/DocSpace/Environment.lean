import DocSpace.Fault
import DocSpace.Named

set_option autoImplicit false

namespace DocSpace

abbrev Environment := Named String

namespace Environment

def refusal? (name value : String) : Option Fault :=
  if name.toList.contains '\x00' || value.toList.contains '\x00' then some .nulByte
  else if name.toList.contains '=' then some .illegalVariable
  else none

def set (env : Environment) (name value : String) : Except Fault Environment :=
  match refusal? name value with
  | some f => .error f
  | none => .ok (env.insert name value)

def sorted (env : Environment) : Environment := env.mergeSort fun a b => a.1 ≤ b.1

end Environment

end DocSpace
