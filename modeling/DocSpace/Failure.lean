import DocSpace.Json.Encode
import DocSpace.Report

set_option autoImplicit false

namespace DocSpace

inductive Failure where
  | fault (f : Fault)
  | report (r : Report)
  | caused (r : Report) (cause : Failure)

namespace Failure

def label : Failure → String
  | fault f => f.label
  | report r | caused r _ => r.kind.className

def causeText (label text : String) : String := Redaction.hideKey (label ++ ": " ++ text)

/-- The text of a report is its record as a JSON document, so a key that no document can hold
leaves the report without one. -/
def text : Failure → Except Fault String
  | fault f => .ok f.text
  | report r => Json.encode Json.reportStyle (.dict (r.entries none))
  | caused r cause => do
    let t ← cause.text
    Json.encode Json.reportStyle (.dict (r.entries (some (causeText cause.label t))))

/-- A report's record, its cause included. -/
def entries : Failure → Except Fault (List (Value × Value))
  | fault _ => .ok []
  | report r => .ok (r.entries none)
  | caused r cause => do return r.entries (some (causeText cause.label (← cause.text)))

def report? : Failure → Option Report
  | fault _ => none
  | report r | caused r _ => some r

/-- Gives a report its cause; a fault has none to show. -/
def withCause : Failure → Failure → Failure
  | fault f, _ => fault f
  | report r, cause | caused r _, cause => caused r cause

end Failure

instance : MonadLift (Except Fault) (Except Failure) where
  monadLift x := x.mapError .fault

end DocSpace
