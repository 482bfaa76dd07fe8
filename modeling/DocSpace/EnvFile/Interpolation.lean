import DocSpace.Named

set_option autoImplicit false

namespace DocSpace.EnvFile

structure Reference where
  name : String
  default : String

inductive Part where
  | char (c : Char)
  | reference (r : Reference)

def isBraceEnd (c : Char) : Bool := c == '\x7d'

/-- The reference that starts here, and how many characters it takes. -/
def reference? : List Char → Option (Reference × Nat)
  | '$' :: '\x7b' :: cs =>
    let name := cs.takeWhile fun c => !isBraceEnd c && c != ':'
    match cs.drop name.length with
    | '\x7d' :: _ => some (⟨String.ofList name, ""⟩, name.length + 3)
    | ':' :: '-' :: rest =>
      let default := rest.takeWhile (!isBraceEnd ·)
      if default.length < rest.length then
        some (⟨String.ofList name, String.ofList default⟩, name.length + default.length + 5)
      else none
    | _ => none
  | _ => none

/-- Parts after the next `skip` characters. -/
def partsFrom : Nat → List Char → List Part
  | _, [] => []
  | skip + 1, _ :: cs => partsFrom skip cs
  | 0, c :: cs =>
    match reference? (c :: cs) with
    | some (r, length) => .reference r :: partsFrom (length - 1) cs
    | none => .char c :: partsFrom 0 cs

/-- What is known under a name: nothing, a name without a value, or a value. -/
abbrev Scope := String → Option (Option String)

/-- The default stands only for a name that is not known. -/
def Reference.resolve (scope : Scope) (r : Reference) : String :=
  match scope r.name with
  | some value => value.getD ""
  | none => r.default

def Part.resolve (scope : Scope) : Part → String
  | .char c => c.toString
  | .reference r => r.resolve scope

def interpolate (scope : Scope) (s : String) : String :=
  String.join ((partsFrom 0 s.toList).map (Part.resolve scope))

end DocSpace.EnvFile
