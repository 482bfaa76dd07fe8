import DocSpace.Json.Encode
import DocSpace.Log.Level
import DocSpace.Named
import DocSpace.Redaction.Fields
import DocSpace.Value.Method

set_option autoImplicit false

namespace DocSpace.Log

open Redaction

abbrev Fields := Named Value

/-- Hides what is sensitive, as in any record. -/
def hideFields (p : Policy) (fs : Fields) : Except Fault Fields :=
  fs.mapM fun (name, v) => do
    return (name, ← if p.covers name then pure hiddenValue else hideInside p (.text name) v)

def eventField : String := "event"

def recordField : String := "_record"

def stackRequest : String := "stack_info"

def stackField : String := "stack"

/-- Fields that are not the caller's to set and not part of a line. -/
def reserved : List String := ["timestamp", stackRequest, recordField, "_from_structlog"]

/-- Values of a logger, replaced and extended by those of a call, and the event's name, if it
has one. -/
def eventFields (bound values : Fields) (event : Value) : Fields :=
  let fs := bound.insertAll values
  if event.isNull then fs else fs.insert eventField event

/-- Context fields stand only where the event has none of their name. -/
def addContext (context fs : Fields) : Fields :=
  context.foldl (fun fs c => fs.insertNew c.1 c.2) fs

def shownName (logger : String) : String := if logger = "" then "root" else logger

/-- Members of enumerations have names, and records may have a field for one. -/
def nameOf (v : Value) : Except Fault Value :=
  match v with
  | .member _ name _ | .textMember _ name _ | .intMember _ name _ => .ok (.text name)
  | .record _ fields =>
    match fields.lookup "name" with
    | some name => .ok name
    | none => .error (v.lacking "name" none)
  | _ => .error (v.lacking "name" none)

def nameIn (logger : String) (fs : Fields) : Except Fault Value :=
  match fs.get? recordField with
  | none | some .null => .ok (.text (shownName logger))
  | some v => nameOf v

def asksForStack (fs : Fields) : Bool := (fs.get? stackRequest).any Value.truthy

def addStack (stack : String) (fs : Fields) : Fields :=
  if asksForStack fs then fs.insert stackField (.text stack) else fs

def lineFields (logger : String) (level : Level) (stack : String) (context fs : Fields) :
    Except Fault Fields := do
  let all := addContext context fs
  let named := all.insert "logger" (← nameIn logger all)
  let leveled := named.insert "level" (.text level.word)
  return (addStack stack leveled).filter fun f => !reserved.contains f.1

def toRecord (fs : Fields) : Value := .dict (fs.map fun (name, v) => (.text name, v))

end DocSpace.Log
