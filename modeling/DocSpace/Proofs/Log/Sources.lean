import DocSpace.Log.Call
import DocSpace.Proofs.Log.Line

set_option autoImplicit false

namespace DocSpace.Log

open Redaction

/-- What a line is made from: context variables, values of the logger, and values of the call. -/
structure Sources where
  context : Fields
  bound : Fields
  values : Fields

namespace Sources

/-- The same but for values under sensitive names. -/
structure Alike (p : Policy) (src other : Sources) : Prop where
  context : Secretly p src.context other.context
  bound : Secretly p src.bound other.bound
  values : Secretly p src.values other.values

structure StringKeyed (src : Sources) : Prop where
  context : AreStringKeyed src.context
  bound : AreStringKeyed src.bound
  values : AreStringKeyed src.values

def fields (src : Sources) (m : Method) (event : Value) : Fields :=
  eventFields src.bound (m.complete src.values) event

def line? (src : Sources) (s : State) (l : Logger) (m : Method) (event : Value) :
    Except Fault (Option String) :=
  { l with bound := src.bound }.log? { s with context := src.context } m event src.values

end Sources

def written (s : State) (level : Level) (all : Fields) (name : Value) : Option String :=
  if s.threshold ≤ level.number then
    (Json.encode Json.logStyle (toRecord (arrange level s.stack all name))).toOption
  else none

variable {p : Policy} {s : State} {l : Logger} {src other : Sources}

namespace Logger

/-- Loggers that are made once logging is configured hide what its policy covers. -/
theorem attachment_make (s : State) (threshold : Int) (p : Policy) (name : String)
    (values : Fields) :
    ((make (s.configure threshold p) name values).attach (s.configure threshold p)).attachment =
      .fixed p := by
  rw [make]
  split <;> rfl

end Logger

section Steps

/-- A line is written in steps, each of which can fail. -/
theorem Sources.line?_eq (fixed : (l.attach s).attachment = .fixed p) (src : Sources)
    (m : Method) (event : Value) :
    src.line? s l m event =
      ((l.attach s).checkValues m src.values).bind fun _ =>
        (hideFields p (src.fields m event)).bind fun hs =>
          (nameIn l.name (addContext src.context hs)).map
            (written s m.level (addContext src.context hs)) := by
  have attached : { l with bound := src.bound }.attach { s with context := src.context } =
      ⟨l.name, src.bound, .fixed p⟩ := by
    obtain ⟨name, bound, attachment⟩ := l
    cases attachment with
    | pending =>
        cases policy : s.policy with
        | none => simp only [Logger.attach, policy] at fixed; cases fixed
        | some own =>
            simp only [Logger.attach, policy, Attachment.fixed.injEq] at fixed ⊢
            rw [fixed]
    | fixed own => simp only [Logger.attach] at fixed ⊢; rw [fixed]
    | detached => simp only [Logger.attach] at fixed; cases fixed
  have check : (l.attach s).checkValues m src.values =
      Logger.checkValues ⟨l.name, src.bound, .fixed p⟩ m src.values := by
    simp only [Logger.checkValues, fixed, Logger.kind]
  rw [check]
  simp only [line?, Logger.log?, Logger.line?, attached, bind, Except.bind, lineFields_eq_map]
  cases Logger.checkValues ⟨l.name, src.bound, .fixed p⟩ m src.values with
  | error f => rfl
  | ok _ =>
      simp only [fields]
      cases hideFields p (eventFields src.bound (m.complete src.values) event) with
      | error f => rfl
      | ok hs =>
          cases named : nameIn l.name (addContext src.context hs) with
          | error f => simp only [named, Except.map]
          | ok name =>
              simp only [named, Except.map, written]
              split <;> rfl

theorem Sources.line?_of_steps (fixed : (l.attach s).attachment = .fixed p) {m : Method}
    {event : Value} (taken : (l.attach s).checkValues m src.values = .ok ()) {hs : Fields}
    (hidden : hideFields p (src.fields m event) = .ok hs) {name : Value}
    (named : nameIn l.name (addContext src.context hs) = .ok name) :
    src.line? s l m event = .ok (written s m.level (addContext src.context hs) name) := by
  rw [line?_eq fixed, taken, hidden]
  simp only [Except.bind, named, Except.map]

theorem refuse_eq {fs gs : Fields} (alike : Secretly p fs gs) (function : String)
    (taken : List String) : refuse function taken fs = refuse function taken gs := by
  have shape (fs : Fields) : refuse function taken fs =
      ((fs.find? fun f => taken.contains f.1).map (·.1)).elim (.ok ()) fun name =>
        .error (.call function (.repeated name)) := by
    rw [refuse]
    cases fs.find? fun f => taken.contains f.1 <;> rfl
  have found : (fs.find? fun f => taken.contains f.1).map (·.1) =
      (gs.find? fun f => taken.contains f.1).map (·.1) := by
    induction alike with
    | nil => rfl
    | @cons f g fs gs head _ ih =>
        rw [List.find?_cons, List.find?_cons, ← head.1]
        split
        · exact congrArg some head.1
        · exact ih
  rw [shape, shape, found]

theorem checkValues_eq {fs gs : Fields} (alike : Secretly p fs gs) (l : Logger) (m : Method) :
    l.checkValues m fs = l.checkValues m gs := by
  simp only [Logger.checkValues, Logger.checkValues.pass, refuse_eq alike]

theorem complete_alike {fs gs : Fields} (alike : Secretly p fs gs) (m : Method) :
    Secretly p (m.complete fs) (m.complete gs) := by
  cases m with
  | plain level => exact alike
  | exception => exact alike.insertNew fun _ => Or.inr rfl

theorem Sources.Alike.fields (alike : src.Alike p other) (m : Method) (event : Value) :
    Secretly p (src.fields m event) (other.fields m event) := by
  have all : Secretly p (src.bound.insertAll (m.complete src.values))
      (other.bound.insertAll (m.complete other.values)) :=
    alike.bound.insertAll (complete_alike alike.values m)
  simp only [Sources.fields, eventFields]
  split
  · exact all
  · exact all.insert (Or.inr rfl)

theorem areStringKeyed_fields (keyed : src.StringKeyed) {event : Value}
    (own : event.isStringKeyed = true) (m : Method) : AreStringKeyed (src.fields m event) := by
  have values : AreStringKeyed (m.complete src.values) := by
    cases m with
    | plain level => exact keyed.values
    | exception => exact keyed.values.insertNew "exc_info" rfl
  have all := keyed.bound.insertAll values
  rw [Sources.fields, eventFields]
  split
  · exact all
  · exact all.insert eventField own

end Steps

end DocSpace.Log
