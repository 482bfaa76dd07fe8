import DocSpace.Expression.Evaluation

set_option autoImplicit false

namespace DocSpace.Schema

/-- A leading star stands for the first of the items behind it. -/
def starred (source : String) : String :=
  if source.startsWith "*" then "(" ++ source ++ ",)[0]" else source

def expressionOf (source : String) : Evaluated Expression :=
  if source.isEmpty then Meaning.faulty (.indexOutOfRange "string")
  else
    match Expression.ofText (starred source) with
    | .ok e => .ok e
    | .error .malformed => Meaning.atFault (.notAnExpression source)
    | .error .unfamiliar => Meaning.unfamiliar

mutual

def settle (look : String → Evaluated Meaning) : Meaning → Evaluated Meaning
  | .generic c ms => do return .generic c (← settleAll look ms)
  | .union ms => do return Meaning.unionOf (← settleAll look ms)
  | .unpacked m => do return .unpacked (← settle look m)
  | m => .ok m

def settleAll (look : String → Evaluated Meaning) : List Meaning → Evaluated (List Meaning)
  | [] => .ok []
  | .text s :: ms => do
    let m ← look s
    return m :: (← settleAll look ms)
  | m :: ms => do
    let m ← settle look m
    return m :: (← settleAll look ms)

end

/-- The type that a meaning stands for. -/
def typeOf (look : String → Evaluated Meaning) : Meaning → Evaluated Meaning
  | .null => .ok (.plain .null)
  | .text s => look s
  | .tuple ms => Meaning.atFault (.notAType (Meaning.tuple ms).display)
  | m => settle look m

/-- The first number bounds how often a text is looked up inside another one. -/
def lookUp : Nat → String → Evaluated Meaning
  | 0, _ => Meaning.unfamiliar
  | fuel + 1, source => do typeOf (lookUp fuel) (← (← expressionOf source).evaluate)

/-- The type that an expression stands for; texts inside an expression are shorter than it. One with
unknown words stands for what is given. -/
def evaluate (source : String) (beyond : Except Fault Hint) : Except Fault Hint :=
  match lookUp (source.length + 1) source with
  | .ok m => .ok m.toHint
  | .error (.fault f) => .error f
  | .error .unfamiliar => beyond

def checkExpression (source : String) : Except Fault Unit :=
  match expressionOf source with
  | .error (.fault f) => .error f
  | _ => .ok ()

def resolve : Annotation → Except Fault Hint
  | .hint h => .ok h.bare
  | .source s beyond => evaluate s beyond

end DocSpace.Schema
