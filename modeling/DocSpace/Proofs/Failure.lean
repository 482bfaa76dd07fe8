import DocSpace.Failure

set_option autoImplicit false

namespace DocSpace

/-- What can be seen of a failure: its class, its report, the report as a record, and its text. -/
structure Failure.View where
  label : String
  report : Option Report
  record : Except Fault (List (Value × Value))
  text : Except Fault String

def Failure.view (f : Failure) : View := ⟨f.label, f.report?, f.entries, f.text⟩

/-- A report shows of its cause only the text with the key hidden. -/
theorem Failure.view_caused_eq (r : Report) {f g : Fault}
    (same : causeText f.label f.text = causeText g.label g.text) :
    (caused r (.fault f)).view = (caused r (.fault g)).view := by
  simp only [view, Failure.label, Failure.report?, Failure.entries, Failure.text, bind,
    Except.bind, same]

end DocSpace
