import DocSpace.FieldName
import DocSpace.Named
import DocSpace.Schema.Reference

set_option autoImplicit false

namespace DocSpace

/-- Documents are dictionaries with declared keys, records, or objects of another class. -/
inductive DocumentKind where
  | mapping
  | record
  | object
  deriving DecidableEq

structure Declaration where
  kind : DocumentKind
  name : String
  fields : Named Annotation

/-- `bases` holds what the type extends, the nearest first. -/
structure DocumentType where
  own : Declaration
  bases : List Declaration

open Schema

namespace Declaration

/-- A dictionary holds values only, so it refuses class variables; and it reads expressions, though
without looking them up. -/
def checkAnnotation : Annotation → Except Fault Unit
  | .hint (.classVariable shown) => .error (.notATypeArgument shown)
  | .hint _ => .ok ()
  | .source s _ => checkExpression s

def distinctFields (d : Declaration) : Named Annotation := Named.insertAll [] d.fields

/-- A record of a dictionary cannot be made. -/
def checkInMapping (d : Declaration) : Except Fault Unit := do
  d.distinctFields.forM fun f => checkAnnotation f.2
  if d.kind = .record then throw (.noSignature (Value.dict []).typeName)

def check (inMapping : Bool) (d : Declaration) : Except Fault Unit := do
  if d.kind = .record then checkFieldNames (d.fields.map fun f => f.1)
  if inMapping then d.checkInMapping

end Declaration

namespace DocumentType

def declarations (t : DocumentType) : List Declaration := (t.own :: t.bases).reverse

def isMapping (t : DocumentType) : Bool :=
  t.declarations.head?.any fun d => d.kind = .mapping

def check (t : DocumentType) : Except Fault Unit := t.declarations.forM (·.check t.isMapping)

def resolveFields (fields : Named Annotation) : Except Fault (Named Hint) :=
  fields.mapM fun (name, a) => do return (name, ← resolve a)

/-- Types of all fields. Dictionaries look expressions up after all declarations have been put
together, the other kinds do so for each declaration. -/
def hints (t : DocumentType) : Except Fault (Named Hint) := do
  t.check
  if t.isMapping then
    resolveFields (t.declarations.foldl (fun fs d => fs.insertAll d.fields) [])
  else
    t.declarations.foldlM
      (fun fs d => do return fs.insertAll (← resolveFields d.distinctFields)) []

end DocumentType

end DocSpace
