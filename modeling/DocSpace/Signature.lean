import DocSpace.Named
import DocSpace.Number.Layout
import DocSpace.Text.Pieces

set_option autoImplicit false

namespace DocSpace

open Number Text

/-- What keeps arguments from being matched. A receiver counts as an argument. -/
inductive CallFault where
  | unexpected (name : String)
  | repeated (name : String)
  | tooMany (least most given named : Nat)
  | missing (names : List String)
  | missingNamed (names : List String)
  | noNames
  deriving DecidableEq

namespace CallFault

def listed (names : List String) : String :=
  let quotedNames := names.map fun n => "'" ++ n ++ "'"
  match quotedNames with
  | [] => ""
  | [a] => a
  | [a, b] => a ++ " and " ++ b
  | _ => joined ", " quotedNames.dropLast ++ ", and " ++ quotedNames.getLastD ""

def plural (n : Nat) : String := if n = 1 then "" else "s"

def missingText (kind : String) (names : List String) : String :=
  "missing " ++ natText names.length ++ " required " ++ kind ++ " argument" ++
    plural names.length ++ ": " ++ listed names

def text : CallFault → String
  | unexpected name => "got an unexpected keyword argument '" ++ name ++ "'"
  | repeated name => "got multiple values for argument '" ++ name ++ "'"
  | tooMany least most given named =>
    let takes :=
      if least = most then natText most ++ " positional argument" ++ plural most
      else "from " ++ natText least ++ " to " ++ natText most ++ " positional arguments"
    let also :=
      if named = 0 then ""
      else " positional argument" ++ plural given ++ " (and " ++ natText named ++
        " keyword-only argument" ++ plural named ++ ")"
    "takes " ++ takes ++ " but " ++ natText given ++ also ++
      (if given = 1 ∧ named = 0 then " was given" else " were given")
  | missing names => missingText "positional" names
  | missingNamed names => missingText "keyword-only" names
  | noNames => "takes no keyword arguments"

end CallFault

/-- The parameters of a function: those that have to be given, those that need not be, and those
that are given by name only. Further names are taken or refused. -/
structure Signature where
  required : List String
  optional : List String
  named : List String
  takesMore : Bool

/-- Arguments by their parameters, and those under further names. -/
structure Matched (α : Type) where
  values : Named α
  more : Named α

namespace Signature

variable {α : Type}

def positional (s : Signature) : List String := s.required ++ s.optional

def takeNamed (s : Signature) (m : Matched α) (argument : String × α) :
    Except CallFault (Matched α) :=
  if (s.positional ++ s.named).contains argument.1 then
    if m.values.contains argument.1 then .error (.repeated argument.1)
    else .ok { m with values := m.values ++ [argument] }
  else if s.takesMore then .ok { m with more := m.more ++ [argument] }
  else .error (.unexpected argument.1)

/-- Names are looked at before the number of the arguments is, and that before those missing. -/
def assign (s : Signature) (arguments : List α) (named : Named α) :
    Except CallFault (Matched α) := do
  let m ← named.foldlM s.takeNamed ⟨s.positional.zip arguments, []⟩
  if s.positional.length < arguments.length then
    throw (.tooMany s.required.length s.positional.length arguments.length
      (s.named.filter m.values.contains).length)
  match s.required.filter fun n => !m.values.contains n with
  | [] => return m
  | names => throw (.missing names)

end Signature

end DocSpace
