import DocSpace.Redaction.Url
import DocSpace.Text.LetterCase
import DocSpace.Value.Equality
import DocSpace.Value.Method

set_option autoImplicit false

namespace DocSpace.Redaction

/-- Names of sensitive fields, as they were given. -/
structure Policy where
  fields : List String

def Policy.standard : Policy where
  fields := ["api_key", "apikey", "authorization", "password", "secret", "token"]

/-- A policy needs at least one field. -/
def Policy.ofFields (fields : List String) : Policy := if fields = [] then .standard else ⟨fields⟩

def Policy.covers (p : Policy) (name : String) : Bool := p.fields.contains (Text.lower name)

/-- Whether a key is a sensitive name. Bytes are no name, but have a lower case as names do. -/
def Policy.coversKey (p : Policy) (k : Value) : Except Fault Bool :=
  match k.asText?, k with
  | some s, _ => .ok (p.covers s)
  | none, .bytes _ => .ok false
  | none, _ => .error (k.lacking "lower" none)

def hiddenValue : Value := .text hidden

def hideFlat (p : Policy) (es : List (Value × Value)) : Except Fault (List (Value × Value)) :=
  es.mapM fun (k, v) => do return (k, if ← p.coversKey k then hiddenValue else v)

/-- A text under the name `url` is taken for a URL. -/
def hideUrl (k v : Value) : Value :=
  match v.asText? with
  | some s => if k.isText "url" then .text (hideKey s) else v
  | none => v

mutual

def hideInside (p : Policy) (k : Value) : Value → Except Fault Value
  | .dict es => do return .dict (← hideDeep p es)
  | v => .ok (hideUrl k v)

/-- Fields of the record and of the records directly under its fields, at every depth. -/
def hideDeep (p : Policy) : List (Value × Value) → Except Fault (List (Value × Value))
  | [] => .ok []
  | (k, v) :: es => do
    let w ← if ← p.coversKey k then pure hiddenValue else hideInside p k v
    return (k, w) :: (← hideDeep p es)

end

def entriesOf (v : Value) : Except Fault (List (Value × Value)) :=
  match v with
  | .dict es => .ok es
  | _ => .error (v.lacking "items" none)

def redact (p : Policy) (v : Value) : Except Fault Value := do
  return .dict (← hideFlat p (← entriesOf v))

def redactDeep (p : Policy) (v : Value) : Except Fault Value := do
  return .dict (← hideDeep p (← entriesOf v))

end DocSpace.Redaction
