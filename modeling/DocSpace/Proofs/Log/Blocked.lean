import DocSpace.Proofs.Log.Readable
import DocSpace.Proofs.Redaction.Blocked

set_option autoImplicit false

namespace DocSpace.Log

open Redaction

variable {p : Policy} {s : State} {l : Logger} {fs : Fields}

theorem refuse_eq_ok_iff (function : String) (names : List String) (fs : Fields) :
    refuse function names fs = .ok () ↔ ∀ n ∈ fs.names, n ∉ names := by
  constructor
  · intro run n member known
    obtain ⟨f, given, rfl⟩ := List.mem_map.mp member
    have found : (fs.find? fun f => names.contains f.1).isSome = true :=
      List.find?_isSome.mpr ⟨f, given, List.contains_iff_mem.mpr known⟩
    obtain ⟨g, first⟩ := Option.isSome_iff_exists.mp found
    rw [refuse, first] at run
    cases run
  · exact refuse_eq_ok

theorem checkValues_eq_ok_iff (l : Logger) (m : Method) (fs : Fields) :
    l.checkValues m fs = .ok () ↔ ∀ n ∈ fs.names, n ∉ taken := by
  constructor
  · intro run n member known
    have pass {function next : String}
        (run : Logger.checkValues.pass fs function next = .ok ()) : False := by
      obtain ⟨_, first, second⟩ := bind_eq_ok.mp run
      have own := (refuse_eq_ok_iff _ _ fs).mp first n member
      have last := (refuse_eq_ok_iff _ _ fs).mp second n member
      have listed : n ∈ [receiver, eventField] ++ ["method_name"] := known
      exact (List.mem_append.mp listed).elim own last
    unfold Logger.checkValues at run
    split at run <;> exact pass run
  · exact checkValues_eq_ok l m

/-- The name of a line is that of the event's record, if there is one and it has a name. -/
theorem exists_nameIn_iff (logger : String) (fs : Fields) :
    (∃ name, nameIn logger fs = .ok name) ↔
      ∀ v, fs.get? recordField = some v → v = .null ∨ ∃ name, nameOf v = .ok name := by
  rw [nameIn]
  split
  · next absent =>
      refine iff_of_true ⟨_, rfl⟩ fun v found => ?_
      cases absent.symm.trans found
  · next missing =>
      refine iff_of_true ⟨_, rfl⟩ fun v found => .inl ?_
      exact (Option.some.inj (missing.symm.trans found)).symm
  · next v filled found =>
      constructor
      · rintro named w same
        obtain rfl := Option.some.inj (found.symm.trans same)
        exact .inr named
      · intro named
        exact (named v found).resolve_left filled

/-- The deep pass shows a record, with the keys that it has, just if no key blocks it, and otherwise
fails as such a key does. A call returns just if none of its names is one that logging has for
itself, no key blocks the event, and a record that the event says it comes from has a name. -/
theorem returns_iff_unblocked (fixed : (l.attach s).attachment = .fixed p) (m : Method)
    (event : Value) (values : Fields) :
    let fs := eventFields l.bound (m.complete values) event
    (∀ es : Entries, ((∃ shown : Entries, redactDeep p (.dict es) = .ok (.dict shown) ∧
          shown.keys = es.keys) ↔ ∀ key, ¬Blocks p es key) ∧
        ∀ f, redactDeep p (.dict es) = .error f →
          ∃ key, Blocks p es key ∧ f = key.lacking "lower" none) ∧
      ((∃ line, l.log? s m event values = .ok line) ↔
        (∀ n ∈ values.names, n ∉ taken) ∧ (∀ key, ¬Blocks p (Entries.ofNamed fs) key) ∧
          ∀ hs v, redactDeep p (toRecord fs) = .ok (toRecord hs) →
            (addContext s.context hs).get? recordField = some v →
              v = .null ∨ ∃ name, nameOf v = .ok name) := by
  intro fs
  refine ⟨fun es => ⟨exists_redactDeep_iff p es, fun f => exists_blocks_of_redactDeep_eq_error⟩, ?_⟩
  have call : (Sources.mk s.context l.bound values).line? s l m event =
      l.log? s m event values := rfl
  have shown {hs : Fields} (hidden : hideFields p fs = .ok hs) :
      redactDeep p (toRecord fs) = .ok (toRecord hs) := by
    rw [redactDeep_toRecord, hidden]
    rfl
  -- The names are checked, the event is hidden, and only then a record in it is asked for its name.
  rw [← call, Sources.line?_eq fixed, ← checkValues_eq_ok_iff (l.attach s) m values]
  constructor
  · rintro ⟨line, run⟩
    obtain ⟨_, accepted, run⟩ := bind_eq_ok.mp run
    obtain ⟨hs, hidden, run⟩ := bind_eq_ok.mp run
    obtain ⟨name, named, _⟩ := map_eq_ok.mp run
    refine ⟨accepted, not_blocks_of_redactDeep_eq_ok (shown hidden), fun hs' v run' => ?_⟩
    obtain rfl := toRecord_injective (Except.ok.inj ((shown hidden).symm.trans run'))
    exact (exists_nameIn_iff l.name _).mp ⟨name, named⟩ v
  · rintro ⟨accepted, free, record⟩
    obtain ⟨_, run, _⟩ := (exists_redactDeep_iff p _).mpr free
    obtain ⟨hs, hidden, _⟩ := map_eq_ok.mp ((redactDeep_toRecord p fs).symm.trans run)
    obtain ⟨name, named⟩ := (exists_nameIn_iff l.name (addContext s.context hs)).mpr
      fun v => record hs v (shown hidden)
    refine ⟨written s m.level (addContext s.context hs) name, bind_eq_ok.mpr ⟨(), accepted, ?_⟩⟩
    exact bind_eq_ok.mpr ⟨hs, hidden, map_eq_ok.mpr ⟨name, named, rfl⟩⟩

def tally (key : Value) : Fields :=
  [("counts", .dict [(key, .text "a")]), ("token", .dict [(.int 1, .text "t")])]

def counting : State := State.initial.configure 10 .standard

def counter : Logger := .make counting "tally" []

/-- Numbers are no names, but those behind a sensitive name are out of reach. -/
theorem tally_returns_iff_unblocked :
    (counter.attach counting).attachment = .fixed .standard ∧
      let fs := eventFields counter.bound (tally (.text "x")) (.text "visit")
      (∀ es : Entries, ((∃ shown : Entries, redactDeep .standard (.dict es) = .ok (.dict shown) ∧
            shown.keys = es.keys) ↔ ∀ key, ¬Blocks .standard es key) ∧
          ∀ f, redactDeep .standard (.dict es) = .error f →
            ∃ key, Blocks .standard es key ∧ f = key.lacking "lower" none) ∧
        ((∃ line, counter.log? counting (.plain .info) (.text "visit") (tally (.text "x")) =
            .ok line) ↔
          (∀ n ∈ Named.names (tally (.text "x")), n ∉ taken) ∧
            (∀ key, ¬Blocks .standard (Entries.ofNamed fs) key) ∧
            ∀ hs v, redactDeep .standard (toRecord fs) = .ok (toRecord hs) →
              (addContext counting.context hs).get? recordField = some v →
                v = .null ∨ ∃ name, nameOf v = .ok name) := by
  have fixed : (counter.attach counting).attachment = .fixed .standard :=
    Logger.attachment_make .initial 10 .standard "tally" []
  exact ⟨fixed, returns_iff_unblocked fixed (.plain .info) (.text "visit") (tally (.text "x"))⟩

/-- A number among the names of the counts ends the pass and the call, although a line has room for
the tally. -/
theorem numbered_tally_fails :
    (∃ text, Json.encode Json.logStyle (toRecord (tally (.int 1))) = .ok text) ∧
      redactDeep .standard (toRecord (tally (.int 1))) = .error (.noAttribute "int" "lower") ∧
      counter.log? counting (.plain .info) (.text "visit") (tally (.int 1)) =
        .error (.noAttribute "int" "lower") :=
  ⟨⟨_, rfl⟩, rfl, rfl⟩

end DocSpace.Log
