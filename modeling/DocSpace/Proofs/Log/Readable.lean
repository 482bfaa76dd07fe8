import DocSpace.Proofs.Json.Decode
import DocSpace.Proofs.Log.Sources

set_option autoImplicit false

namespace DocSpace.Log

open Redaction Json

def AreJson (fs : Fields) : Prop := ∀ f ∈ fs, IsJson f.2

variable {p : Policy} {fs hs : Fields}

section Hiding

theorem hideDeep_ofNamed (p : Policy) (fs : Fields) :
    hideDeep p (Entries.ofNamed fs) = (hideFields p fs).map Entries.ofNamed := by
  induction fs with
  | nil => rfl
  | cons f fs ih =>
      obtain ⟨n, v⟩ := f
      have names : p.hides (.text n) = p.covers n := rfl
      show hideDeep p ((.text n, v) :: Entries.ofNamed fs) = _
      rw [hideFields_cons, hideDeep_cons_eq rfl, names, ih]
      cases p.covers n with
      | true => cases hideFields p fs <;> rfl
      | false => cases hideInside p (.text n) v <;> cases hideFields p fs <;> rfl

theorem redactDeep_toRecord (p : Policy) (fs : Fields) :
    redactDeep p (toRecord fs) = (hideFields p fs).map toRecord := by
  have run := hideDeep_ofNamed p fs
  show (hideDeep p (Entries.ofNamed fs)).map Value.dict = _
  rw [run]
  cases hideFields p fs <;> rfl

/-- What JSON has a form for still has one when secrets are hidden in it. -/
theorem hideInside_isJson (p : Policy) {v : Value} (json : IsJson v) (k : Value) :
    ∃ w, hideInside p k v = .ok w ∧ IsJson w := by
  induction json generalizing k with
  | null => exact ⟨.null, rfl, .null⟩
  | bool b => exact ⟨.bool b, rfl, .bool b⟩
  | @int i few => exact ⟨.int i, rfl, .int few⟩
  | @double d made => exact ⟨.double d, rfl, .double made⟩
  | text s =>
      refine ⟨hideUrl k (.text s), rfl, ?_⟩
      simp only [hideUrl, Value.asText?]
      split
      · exact .text _
      · exact .text s
  | @list vs each _ => exact ⟨.list vs, rfl, .list each⟩
  | @dict es distinct _ ih =>
      have each (e : String × Value) (member : e ∈ es) := ih e member (.text e.1)
      obtain ⟨hs, run, json⟩ := exists_hideFields (.text Redaction.hidden) each
      have names := names_hideFields run
      refine ⟨.dict (Entries.ofNamed hs), ?_, .dict (names ▸ distinct) json⟩
      rw [hideInside, hideDeep_ofNamed, run]
      rfl

theorem areJson_hideFields (p : Policy) (json : AreJson fs) :
    ∃ hs, hideFields p fs = .ok hs ∧ AreJson hs :=
  exists_hideFields (.text Redaction.hidden) fun f member =>
    hideInside_isJson p (json f member) (.text f.1)

end Hiding

section Json

theorem toRecord_injective {gs : Fields} (same : toRecord fs = toRecord gs) : fs = gs := by
  refine List.map_injective_iff.mpr (fun f g same => ?_) (Value.dict.inj same)
  obtain ⟨name, value⟩ := Prod.mk.inj same
  exact Prod.ext (Value.text.inj name) value

theorem isSeparating_logStyle : logStyle.IsSeparating := by
  constructor <;> exact ⟨[' '], rfl, List.forall_mem_singleton.mpr rfl⟩

theorem exists_encode_toRecord (distinct : fs.names.Nodup) (json : AreJson fs) :
    ∃ line, encode logStyle (toRecord fs) = .ok line ∧ decode line = .ok (toRecord fs) := by
  have record : IsJson (toRecord fs) := .dict distinct json
  exact exists_encode_decode isLenient_logStyle isSeparating_logStyle record

end Json

section Names

variable {context : Fields}

/-- The context adds its variables whose names the event has not. -/
theorem addContext_eq (distinct : context.names.Nodup) (fs : Fields) :
    addContext context fs = fs ++ context.filter fun c => !fs.contains c.1 := by
  unfold addContext
  induction context generalizing fs with
  | nil => exact (List.append_nil fs).symm
  | cons c context ih =>
      obtain ⟨apart, distinct⟩ := List.nodup_cons.mp distinct
      rw [List.foldl_cons, ih distinct, List.filter_cons, Named.insertNew]
      cases present : fs.contains c.1 with
      | true => rfl
      | false =>
          have others : context.filter (fun d => !Named.contains (fs ++ [c]) d.1) =
              context.filter fun d => !fs.contains d.1 := by
            refine List.filter_congr fun d member => ?_
            have other : c.1 ≠ d.1 := fun same => apart (List.mem_map.mpr ⟨d, member, same.symm⟩)
            simp [Named.contains, other]
          simp only [Bool.false_eq_true, ↓reduceIte, Bool.not_false]
          rw [others, List.append_assoc]
          rfl

theorem nodup_addContext (distinct : fs.names.Nodup) (context : Fields) :
    (addContext context fs).names.Nodup := by
  unfold addContext
  induction context generalizing fs with
  | nil => exact distinct
  | cons c context ih => exact ih (Named.nodup_names_insertNew distinct c.1 c.2)

end Names

/-- The time of the event. What a caller gives for it is replaced. -/
def timeField : String := "timestamp"

def IsFree (n : String) : Prop := n ∈ reserved → n = timeField

instance (n : String) : Decidable (IsFree n) :=
  inferInstanceAs (Decidable (n ∈ reserved → n = timeField))

/-- Fields that a line can hold: JSON has a form for the values, and the names are free. -/
structure Fits (fs : Fields) : Prop where
  json : AreJson fs
  free : ∀ n ∈ fs.names, IsFree n

namespace Fits

theorem singleton {n : String} (free : IsFree n) {v : Value} (json : IsJson v) :
    Fits [(n, v)] :=
  ⟨List.forall_mem_singleton.mpr json, List.forall_mem_singleton.mpr free⟩

theorem insert (fits : Fits fs) {n : String} (free : IsFree n) {v : Value} (json : IsJson v) :
    Fits (fs.insert n v) where
  json := Named.forall_mem_insert fits.json n json
  free := fun n' member => by
    rcases Named.mem_names_insert.mp member with rfl | member
    · exact free
    · exact fits.free n' member

theorem insertNew (fits : Fits fs) {n : String} (free : IsFree n) {v : Value}
    (json : IsJson v) : Fits (fs.insertNew n v) where
  json := Named.forall_mem_insertNew fits.json n json
  free := fun n' member => by
    rcases Named.mem_names_insertNew.mp member with member | rfl
    · exact fits.free n' member
    · exact free

theorem insertAll (fits : Fits fs) (others : Fits hs) : Fits (fs.insertAll hs) where
  json := Named.forall_mem_insertAll fits.json others.json
  free := fun n member =>
    (Named.mem_names_insertAll.mp member).elim (fits.free n) (others.free n)

theorem complete (fits : Fits fs) (m : Method) : Fits (m.complete fs) := by
  cases m with
  | plain level => exact fits
  | exception => exact fits.insertNew (by decide) (.bool true)

theorem eventFields (fits : Fits fs) (others : Fits hs) {event : Value} (json : IsJson event) :
    Fits (eventFields fs hs event) := by
  have all := fits.insertAll others
  unfold Log.eventFields
  split
  · exact all
  · exact all.insert (by decide) json

theorem addContext {context : Fields} (fits : Fits fs) (others : Fits context) :
    Fits (addContext context fs) := by
  unfold Log.addContext
  induction context generalizing fs with
  | nil => exact fits
  | cons c context ih =>
      obtain ⟨own, json⟩ := List.forall_mem_cons.mp others.json
      obtain ⟨free, names⟩ := List.forall_mem_cons.mp others.free
      exact ih (fits.insertNew free own) ⟨json, names⟩

/-- What is hidden stays in its place, and what is left has a form still. -/
theorem exists_hideFields (fits : Fits fs) (p : Policy) :
    ∃ hs, hideFields p fs = .ok hs ∧ Fits hs := by
  obtain ⟨hs, run, json⟩ := areJson_hideFields p fits.json
  exact ⟨hs, run, json, names_hideFields run ▸ fits.free⟩

theorem erase (fits : Fits fs) (n : String) : Fits (fs.erase n) where
  json := fun f member => fits.json f (List.mem_filter.mp member).1
  free := fun _ member => fits.free _ ((List.filter_sublist.map _).subset member)

theorem get?_reserved (fits : Fits fs) {n : String} (reserved : n ∈ reserved)
    (other : n ≠ timeField) : fs.get? n = none := by
  rw [Named.get?_eq_none]
  intro member
  exact other (fits.free n member reserved)

theorem nameIn_eq (fits : Fits fs) (logger : String) :
    nameIn logger fs = .ok (.text (shownName logger)) := by
  rw [nameIn, fits.get?_reserved (by decide) (by decide)]

theorem unasked (fits : Fits fs) : asksForStack fs = false := by
  rw [asksForStack, fits.get?_reserved (by decide) (by decide)]
  rfl

/-- Nothing but the time is left out of a line. -/
theorem arrange_eq (fits : Fits fs) (level : Level) (stack : String) {name : Value}
    (json : IsJson name) :
    arrange level stack fs name =
      Named.erase ((fs.insert "logger" name).insert "level" (.text level.word)) timeField := by
  have all : Fits ((fs.insert "logger" name).insert "level" (.text level.word)) :=
    (fits.insert (by decide) json).insert (by decide) (.text level.word)
  rw [arrange_of_unasked fits.unasked]
  refine List.filter_congr fun f member => ?_
  have free : IsFree f.1 := all.free f.1 (List.mem_map_of_mem member)
  have left_out : reserved.contains f.1 = decide (f.1 = timeField) := by
    rw [Bool.eq_iff_iff, List.contains_iff_mem, decide_eq_true_eq]
    exact ⟨free, fun time => time ▸ List.mem_cons_self⟩
  rw [left_out, decide_not]

end Fits

def taken : List String := [receiver, eventField, "method_name"]

theorem refuse_eq_ok {function : String} {names : List String}
    (free : ∀ n ∈ fs.names, n ∉ names) : refuse function names fs = .ok () := by
  have none_taken : fs.find? (fun f => names.contains f.1) = none := by
    refine List.find?_eq_none.mpr fun f member => ?_
    rw [List.contains_iff_mem]
    exact free f.1 (List.mem_map_of_mem member)
  rw [refuse, none_taken]

theorem checkValues_eq_ok (l : Logger) (m : Method) (free : ∀ n ∈ fs.names, n ∉ taken) :
    l.checkValues m fs = .ok () := by
  have pass (function next : String) : Logger.checkValues.pass fs function next = .ok () := by
    have first : refuse function [receiver, eventField] fs = .ok () :=
      refuse_eq_ok fun n member both => free n member (List.mem_append_left _ both)
    have second : refuse (next ++ "._proxy_to_logger") ["method_name"] fs = .ok () :=
      refuse_eq_ok fun n member own =>
        free n member (List.mem_append_right [receiver, eventField] own)
    rw [Logger.checkValues.pass, first]
    exact second
  unfold Logger.checkValues
  split <;> exact pass _ _

/-- Names are distinct in an event if they are among the values of its logger. -/
theorem nodup_eventFields {bound : Fields} (distinct : bound.names.Nodup) (values : Fields)
    (event : Value) : (eventFields bound values event).names.Nodup := by
  have all := Named.nodup_names_insertAll distinct values
  unfold eventFields
  split
  · exact all
  · exact Named.nodup_names_insert all _ _

/-- Fields of a line, without its time, whose event has the fields `hs` once what is sensitive is
hidden. The context adds what they lack, and the logger and the level replace what they have. -/
def lineOf (s : State) (l : Logger) (m : Method) (hs : Fields) : Fields :=
  let all := hs ++ s.context.filter fun c => !hs.contains c.1
  let named := all.insert "logger" (.text (shownName l.name))
  (named.insert "level" (.text m.level.word)).erase timeField

section Call

variable {s : State} {l : Logger} {values : Fields} {event : Value} {m : Method}

theorem nodup_lineOf (distinct : s.context.names.Nodup) (event : hs.names.Nodup) :
    (lineOf s l m hs).names.Nodup := by
  have context := nodup_addContext event s.context
  rw [addContext_eq distinct] at context
  have named := Named.nodup_names_insert context "logger" (.text (shownName l.name))
  have leveled := Named.nodup_names_insert named "level" (.text m.level.word)
  exact Named.nodup_names_filter leveled _

theorem areJson_lineOf (distinct : s.context.names.Nodup) (context : Fits s.context)
    (fits : Fits hs) : AreJson (lineOf s l m hs) := by
  have all := fits.addContext context
  rw [addContext_eq distinct] at all
  have named := all.insert (n := "logger") (by decide) (.text (shownName l.name))
  have leveled := named.insert (n := "level") (by decide) (.text m.level.word)
  exact (leveled.erase timeField).json

/-- Once its event is hidden a call leaves the line of the event, if its level counts. -/
theorem log?_of_hidden (fixed : (l.attach s).attachment = .fixed p)
    (distinct : s.context.names.Nodup) (context : Fits s.context)
    (free : ∀ n ∈ values.names, n ∉ taken)
    (hidden : hideFields p (eventFields l.bound (m.complete values) event) = .ok hs)
    (fits : Fits hs) :
    l.log? s m event values = .ok (if s.threshold ≤ m.level.number then
      (encode logStyle (toRecord (lineOf s l m hs))).toOption else none) := by
  have all := fits.addContext context
  have whole : arrange m.level s.stack (addContext s.context hs) (.text (shownName l.name)) =
      lineOf s l m hs := by
    rw [all.arrange_eq m.level s.stack (.text _), addContext_eq distinct]
    rfl
  have call : (Sources.mk s.context l.bound values).line? s l m event =
      l.log? s m event values := rfl
  have hidden : hideFields p (Sources.fields ⟨s.context, l.bound, values⟩ m event) = .ok hs :=
    hidden
  rw [← call, Sources.line?_of_steps fixed (checkValues_eq_ok _ m free) hidden
    (all.nameIn_eq l.name), written, whole]

/-- With one handler a call writes one line if its level counts, and otherwise none. The line is
read back as the fields of the event, with what is sensitive hidden, and those that are added. -/
theorem emit_of_fits (fixed : (l.attach s).attachment = .fixed p) (handlers : s.handlers = 1)
    (distinct : s.context.names.Nodup) (distinctBound : l.bound.names.Nodup)
    (context : Fits s.context) (bound : Fits l.bound) (fits : Fits values)
    (free : ∀ n ∈ values.names, n ∉ taken) (json : IsJson event) (m : Method) :
    ∃ hs, redactDeep p (toRecord (eventFields l.bound (m.complete values) event)) =
        .ok (toRecord hs) ∧
      if s.threshold ≤ m.level.number then
        ∃ line, l.emit s m event values = .ok [line] ∧
          decode line = .ok (toRecord (lineOf s l m hs))
      else l.emit s m event values = .ok [] := by
  obtain ⟨hs, hidden, shown⟩ := (bound.eventFields (fits.complete m) json).exists_hideFields p
  have names : hs.names.Nodup := by
    rw [names_hideFields hidden]
    exact nodup_eventFields distinctBound _ event
  refine ⟨hs, by rw [redactDeep_toRecord, hidden]; rfl, ?_⟩
  rw [Logger.emit, log?_of_hidden fixed distinct context free hidden shown]
  split
  · obtain ⟨line, encoded, read⟩ :=
      exists_encode_toRecord (nodup_lineOf distinct names) (areJson_lineOf distinct context shown)
    refine ⟨line, ?_, read⟩
    rw [encoded]
    show Except.ok (s.write (some line)) = _
    rw [State.write, handlers]
    rfl
  · rfl

end Call

end DocSpace.Log
