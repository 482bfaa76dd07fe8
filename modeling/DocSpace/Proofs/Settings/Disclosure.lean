import DocSpace.Proofs.Failure
import DocSpace.Proofs.Settings.Usable
import DocSpace.Proofs.Text.Quoted

set_option autoImplicit false

namespace DocSpace

namespace ConnectionSettings

/-- The fields that are checked, with their values and why these are refused. -/
def checks (spaceName apiKey timeout logLevel : Value) : Named (Value × String) :=
  [("space_name", spaceName, "must not be empty"), ("api_key", apiKey, "must not be empty"),
    ("timeout", timeout, "must be positive"), ("log_level", logLevel, "unknown logging level")]

def Refuses (name : String) (check : Value × String) (e : Failure) : Prop :=
  ∃ r, Report.invalidSetting (.text name) check.1 (.text check.2) = .ok r ∧ e = .report r

theorem isAtMostZero_eq_ok {v : Value} (number : v.numeric?.isSome = true) :
    ∃ late, isAtMostZero v = .ok late := by
  obtain ⟨n, own⟩ := Option.isSome_iff_exists.mp number
  rw [isAtMostZero, own]
  cases n with
  | whole i => exact ⟨_, rfl⟩
  | double d => exact ⟨_, rfl⟩

theorem baseUrlOf_eq_ok {v : Value} (text : v.asText?.isSome = true) :
    ∃ url, baseUrlOf v = .ok url := by
  obtain ⟨s, own⟩ := Option.isSome_iff_exists.mp text
  exact ⟨trimSlashes s, by simp only [baseUrlOf, own]⟩

theorem levelOf_eq_error {v : Value} (text : v.asText?.isSome = true) {e : Failure}
    (run : levelOf v = .error e) : Refuses "log_level" (v, "unknown logging level") e := by
  obtain ⟨s, own⟩ := Option.isSome_iff_exists.mp text
  simp only [levelOf, own] at run
  cases known : Level.ofName? s with
  | some l =>
      rw [known] at run
      cases run
  | none =>
      rw [known] at run
      exact refuse_eq_error.mp run

/-- Values of their fields' types fail only by being refused. -/
theorem make_eq_error {spaceName apiKey baseUrl timeout logLevel : Value} {e : Failure}
    (typed : AreTyped spaceName apiKey baseUrl timeout logLevel)
    (run : make spaceName apiKey baseUrl timeout logLevel = .error e) :
    ∃ name check, (checks spaceName apiKey timeout logLevel).get? name = some check ∧
      Refuses name check e := by
  have filled {name : String} {v : Value} (refused : requireFilled name v = .error e) :
      Refuses name (v, "must not be empty") e :=
    refuse_eq_error.mp (requireFilled_eq_error.mp refused).2
  unfold make at run
  rcases bind_eq_error.mp run with refused | ⟨_, _, run⟩
  · exact ⟨"space_name", _, rfl, filled refused⟩
  rcases bind_eq_error.mp run with refused | ⟨_, _, run⟩
  · exact ⟨"api_key", _, rfl, filled refused⟩
  rcases bind_eq_error.mp run with unordered | ⟨late, _, run⟩
  · obtain ⟨late, ordered⟩ := isAtMostZero_eq_ok typed.timeout
    rw [ordered] at unordered
    cases unordered
  cases late with
  | true =>
      rcases bind_eq_error.mp run with refused | ⟨_, passed, _⟩
      · exact ⟨"timeout", _, rfl, refuse_eq_error.mp refused⟩
      · exact absurd passed (refuse_ne_ok _ _ _ _)
  | false =>
      rcases bind_eq_error.mp run with refused | ⟨level, _, run⟩
      · exact ⟨"log_level", _, rfl, levelOf_eq_error typed.logLevel refused⟩
      · obtain ⟨url, based⟩ := baseUrlOf_eq_ok typed.baseUrl
        rw [based] at run
        cases run

/-- What is refused under a sensitive name is the same whatever its value is. -/
theorem invalidSetting_of_covers {name : String}
    (sensitive : Redaction.Policy.standard.covers name = true) (v w reason : Value) :
    Report.invalidSetting (.text name) v reason = Report.invalidSetting (.text name) w reason := by
  simp only [Report.invalidSetting, Redaction.Policy.coversKey, Value.asText?, sensitive]
  rfl

theorem kind_of_refuses {name : String} {check : Value × String} {r : Report}
    (refused : Refuses name check (.report r)) :
    ∃ shown, r.kind = .invalidSetting (.text name) shown (.text check.2) := by
  obtain ⟨_, made, same⟩ := refused
  obtain rfl := Failure.report.inj same
  obtain ⟨covered, _, made⟩ := bind_eq_ok.mp made
  obtain rfl := Except.ok.inj made
  exact ⟨_, rfl⟩

/-- Checks of settings that differ in the key only refuse a field alike. -/
theorem eq_of_refuses {spaceName apiKey apiKey' timeout logLevel : Value} {name : String}
    {check check' : Value × String} {e e' : Failure}
    (own : (checks spaceName apiKey timeout logLevel).get? name = some check)
    (own' : (checks spaceName apiKey' timeout logLevel).get? name = some check')
    (refused : Refuses name check e) (refused' : Refuses name check' e') : e = e' := by
  have alike : Report.invalidSetting (.text name) check.1 (.text check.2) =
      Report.invalidSetting (.text name) check'.1 (.text check'.2) := by
    by_cases key : name = "api_key"
    · subst key
      obtain rfl := Option.some.inj own
      obtain rfl := Option.some.inj own'
      exact invalidSetting_of_covers (by decide) _ _ _
    · have others : Named.Alike (· = "api_key") (checks spaceName apiKey timeout logLevel)
          (checks spaceName apiKey' timeout logLevel) := by
        simp [Named.Alike, checks]
      rw [others.get?_eq key, own'] at own
      rw [Option.some.inj own]
  obtain ⟨r, made, rfl⟩ := refused
  obtain ⟨r', made', rfl⟩ := refused'
  rw [alike, made'] at made
  rw [Except.ok.inj made]

end ConnectionSettings

namespace Settings

open ConnectionSettings Text

structure DifferIn (key raw raw' : String) (env env' : Environment) : Prop where
  own : env.get? key = some raw
  own' : env'.get? key = some raw'
  others : ∀ name, name ≠ key → env.get? name = env'.get? name

/-- The field that a load fails on: the first one that cannot be read, or, where all are read, the
one whose value is refused. -/
inductive FailsOn {α : Type} (family : Family α) (env : Environment) (f : Field) (e : Failure) :
    Prop where
  | unread (before after : List Field) (fields : family.fields = before ++ f :: after)
      (passed : ∀ g ∈ before, ∃ v, readField family.word env g = .ok v)
      (run : readField family.word env f = .error e)
  | refused (values : Named Value) (r : Report) (shown reason : Value)
      (field : f ∈ family.fields)
      (read : readFields family.word env family.fields = .ok values)
      (run : family.finish values = .error (.report r))
      (kind : r.kind = .invalidSetting (.text f.name) shown reason)
      (own : e = .report r)

/-- Every load that fails does so on a field, if what is made of the values names one. -/
theorem load_eq_error_iff {α : Type} {family : Family α} {env : Environment}
    (names : ∀ values e, readFields family.word env family.fields = .ok values →
      family.finish values = .error e → ∃ r, e = .report r ∧ ∃ f ∈ family.fields,
        ∃ shown reason, r.kind = .invalidSetting (.text f.name) shown reason) {e : Failure} :
    load family env = .error e ↔ ∃ f, FailsOn family env f e := by
  rw [load_eq_error]
  constructor
  · rintro (unread | ⟨values, f, read, made, rfl⟩)
    · obtain ⟨before, f, after, fields, passed, run⟩ := readFields_eq_error.mp unread
      exact ⟨f, .unread before after fields passed run⟩
    · obtain ⟨r, rfl, f, field, shown, reason, kind⟩ := names values f read made
      have about : r.kind.isConfig = true := by rw [kind]; rfl
      exact ⟨f, .refused values r shown reason field read made kind (wrapped_of_isConfig about)⟩
  · rintro ⟨f, fails⟩
    cases fails with
    | unread before after fields passed run =>
        exact .inl (readFields_eq_error.mpr ⟨before, f, after, fields, passed, run⟩)
    | refused values r shown reason field read run kind own =>
        have about : r.kind.isConfig = true := by rw [kind]; rfl
        exact .inr ⟨values, _, read, run, own.trans (wrapped_of_isConfig about).symm⟩

section Differing

variable {key raw raw' : String} {env env' : Environment} {word : String} {f : Field}

theorem readField_eq_of_ne (differ : DifferIn key raw raw' env env')
    (other : variableName word f.name ≠ key) : readField word env f = readField word env' f := by
  simp only [readField, differ.others _ other]

/-- The message of a value that cannot be read quotes it. -/
theorem eq_of_view_unreadable {fault fault' : Fault}
    (same : (unreadable key raw fault).view = (unreadable key raw' fault').view) : raw = raw' := by
  have reports := Option.some.inj (congrArg Failure.View.report same)
  have messages := Value.text.inj (congrArg Report.message reports)
  have chars := congrArg String.toList messages
  simp only [String.toList_append, List.append_assoc, List.append_cancel_left_eq] at chars
  exact eq_of_quoted_append chars

/-- A field that can be read in neither environment fails alike in both just if its variable is
another one, or has the same value in both. -/
theorem view_eq_iff_of_readField (differ : DifferIn key raw raw' env env') {e e' : Failure}
    (run : readField word env f = .error e) (run' : readField word env' f = .error e') :
    e.view = e'.view ↔ (variableName word f.name = key → raw = raw') := by
  by_cases own : variableName word f.name = key
  · simp only [readField, own, differ.own, differ.own', mapError_eq_error] at run run'
    obtain ⟨fault, read, rfl⟩ := run
    obtain ⟨fault', read', rfl⟩ := run'
    refine ⟨fun same _ => eq_of_view_unreadable same, fun equal => ?_⟩
    obtain rfl := equal own
    rw [read] at read'
    rw [Except.error.inj read']
  · rw [readField_eq_of_ne differ own, run'] at run
    rw [Except.error.inj run]
    exact iff_of_true rfl fun same => absurd same own

end Differing

section Connection

variable {raw raw' : String} {env env' : Environment}

def connectionField (name type : String) : Field := ⟨name, .source type, defaults.get? name⟩

theorem connection_fields : connection.fields = [connectionField "space_name" "str",
    connectionField "api_key" "str", connectionField "base_url" "str",
    connectionField "timeout" "float", connectionField "log_level" "str"] := rfl

/-- Values that are read for the connection, each from its field. -/
structure ReadValues (env : Environment) (spaceName apiKey baseUrl timeout logLevel : Value) :
    Prop where
  spaceName : readField connection.word env (connectionField "space_name" "str") = .ok spaceName
  apiKey : readField connection.word env (connectionField "api_key" "str") = .ok apiKey
  baseUrl : readField connection.word env (connectionField "base_url" "str") = .ok baseUrl
  timeout : readField connection.word env (connectionField "timeout" "float") = .ok timeout
  logLevel : readField connection.word env (connectionField "log_level" "str") = .ok logLevel

theorem ReadValues.typed {spaceName apiKey baseUrl timeout logLevel : Value}
    (read : ReadValues env spaceName apiKey baseUrl timeout logLevel) :
    AreTyped spaceName apiKey baseUrl timeout logLevel where
  spaceName := isTyped_of_readField (by simp [connection_fields]) read.spaceName
  apiKey := isTyped_of_readField (by simp [connection_fields]) read.apiKey
  baseUrl := isTyped_of_readField (by simp [connection_fields]) read.baseUrl
  timeout := isTyped_of_readField (by simp [connection_fields]) read.timeout
  logLevel := isTyped_of_readField (by simp [connection_fields]) read.logLevel

/-- Settings are made of all values that are read, and of nothing else. -/
theorem finish_of_readFields {values : Named Value}
    (run : readFields connection.word env connection.fields = .ok values) :
    ∃ spaceName apiKey baseUrl timeout logLevel,
      ReadValues env spaceName apiKey baseUrl timeout logLevel ∧
        connection.finish values = make spaceName apiKey baseUrl timeout logLevel := by
  have each := readFields_eq_ok.mp run
  simp only [connection_fields, List.forall₂_cons_left_iff, List.forall₂_nil_left_iff] at each
  obtain ⟨⟨_, a⟩, _, ⟨rfl, readA⟩, ⟨⟨_, b⟩, _, ⟨rfl, readB⟩, ⟨⟨_, c⟩, _, ⟨rfl, readC⟩,
    ⟨⟨_, d⟩, _, ⟨rfl, readD⟩, ⟨⟨_, l⟩, _, ⟨rfl, readL⟩, rfl, rfl⟩, rfl⟩, rfl⟩, rfl⟩, rfl⟩ := each
  exact ⟨a, b, c, d, l, ⟨readA, readB, readC, readD, readL⟩, rfl⟩

/-- The key can always be read, so another field is the one that cannot be. -/
theorem variableName_ne_of_unread {f : Field} {e : Failure} (field : f ∈ connection.fields)
    (own : env.get? (variableName connection.word "api_key") = some raw)
    (run : readField connection.word env f = .error e) :
    variableName connection.word f.name ≠ variableName connection.word "api_key" := by
  simp only [connection_fields, List.mem_cons, List.not_mem_nil, or_false] at field
  rcases field with rfl | rfl | rfl | rfl | rfl
  · decide
  · simp only [readField, connectionField, own] at run
    cases run
  · decide
  · decide
  · decide

/-- Whatever is refused has a field. -/
theorem connection_names {values : Named Value} {e : Failure}
    (read : readFields connection.word env connection.fields = .ok values)
    (run : connection.finish values = .error e) :
    ∃ r, e = .report r ∧ ∃ f ∈ connection.fields,
      ∃ shown reason, r.kind = .invalidSetting (.text f.name) shown reason := by
  obtain ⟨a, b, c, d, l, given, made⟩ := finish_of_readFields read
  obtain ⟨name, check, own, refused⟩ := make_eq_error given.typed (made.symm.trans run)
  have member := Named.mem_of_get?_eq_some own
  have known : ∃ f ∈ connection.fields, f.name = name := by
    simp only [checks, List.mem_cons, Prod.mk.injEq, List.not_mem_nil, or_false] at member
    rcases member with ⟨rfl, _⟩ | ⟨rfl, _⟩ | ⟨rfl, _⟩ | ⟨rfl, _⟩ <;>
      simp [connection_fields, connectionField]
  obtain ⟨r, report, rfl⟩ := refused
  obtain ⟨f, field, rfl⟩ := known
  obtain ⟨shown, kind⟩ := kind_of_refuses ⟨r, report, rfl⟩
  exact ⟨r, rfl, f, field, shown, _, kind⟩

/-- Values that differ in the key only are refused alike, if for the same field. -/
theorem eq_of_refused
    (differ : DifferIn (variableName connection.word "api_key") raw raw' env env')
    {name : String} {values values' : Named Value} {r r' : Report}
    {shown shown' reason reason' : Value}
    (read : readFields connection.word env connection.fields = .ok values)
    (read' : readFields connection.word env' connection.fields = .ok values')
    (run : connection.finish values = .error (.report r))
    (run' : connection.finish values' = .error (.report r'))
    (kind : r.kind = .invalidSetting (.text name) shown reason)
    (kind' : r'.kind = .invalidSetting (.text name) shown' reason') : r = r' := by
  obtain ⟨a, b, c, d, l, given, made⟩ := finish_of_readFields read
  obtain ⟨a', b', c', d', l', given', made'⟩ := finish_of_readFields read'
  obtain ⟨n, check, own, refused⟩ := make_eq_error given.typed (made.symm.trans run)
  obtain ⟨n', check', own', refused'⟩ := make_eq_error given'.typed (made'.symm.trans run')
  have same {v v' : Value} {f : Field} (first : readField connection.word env f = .ok v)
      (second : readField connection.word env' f = .ok v')
      (other : variableName connection.word f.name ≠ variableName connection.word "api_key") :
      v = v' := by
    rw [readField_eq_of_ne differ other, second] at first
    exact (Except.ok.inj first).symm
  obtain rfl := same given.spaceName given'.spaceName (by decide)
  obtain rfl := same given.timeout given'.timeout (by decide)
  obtain rfl := same given.logLevel given'.logLevel (by decide)
  have field : n = name := by
    obtain ⟨_, named⟩ := kind_of_refuses refused
    rw [kind] at named
    injection named with named
    exact (Value.text.inj named).symm
  have field' : n' = name := by
    obtain ⟨_, named⟩ := kind_of_refuses refused'
    rw [kind'] at named
    injection named with named
    exact (Value.text.inj named).symm
  subst field field'
  exact Failure.report.inj (eq_of_refuses own own' refused refused')

/-- Loads of the connection that fail on the same field fail alike, whatever the key is. -/
theorem eq_of_failsOn
    (differ : DifferIn (variableName connection.word "api_key") raw raw' env env')
    {f : Field} {e e' : Failure} (fails : FailsOn connection env f e)
    (fails' : FailsOn connection env' f e') : e = e' := by
  cases fails with
  | unread before after fields passed run =>
      have field : f ∈ connection.fields := fields ▸ List.mem_append_right _ List.mem_cons_self
      have other := variableName_ne_of_unread field differ.own run
      rw [readField_eq_of_ne differ other] at run
      cases fails' with
      | unread _ _ _ _ run' => exact Except.error.inj (run.symm.trans run')
      | refused _ _ _ _ _ read' =>
          obtain ⟨v, ok⟩ := exists_readField_of_readFields read' field
          cases run.symm.trans ok
  | refused values r shown reason field read run kind own =>
      cases fails' with
      | unread _ _ _ _ run' =>
          have other := variableName_ne_of_unread field differ.own' run'
          rw [← readField_eq_of_ne differ other] at run'
          obtain ⟨v, ok⟩ := exists_readField_of_readFields read field
          cases run'.symm.trans ok
      | refused _ _ _ _ _ read' run' kind' own' =>
          rw [own, own', eq_of_refused differ read read' run run' kind kind']

end Connection

/-- A class whose values are all taken shows the value of a variable just if the load fails on
that variable's field; the connection never shows its key. -/
theorem views_eq_iff {key raw raw' : String} {env env' : Environment}
    (differ : DifferIn key raw raw' env env') :
    (∀ (α : Type) (family : Family α), (∀ values, ∃ s, family.finish values = .ok s) →
        (∀ e, load family env = .error e ↔ ∃ f, FailsOn family env f e) ∧
          ∀ f e e', FailsOn family env f e → FailsOn family env' f e' →
            (e.view = e'.view ↔ (variableName family.word f.name = key → raw = raw'))) ∧
      (key = variableName connection.word "api_key" →
        (∀ e, load connection env = .error e ↔ ∃ f, FailsOn connection env f e) ∧
          ∀ f e e', FailsOn connection env f e → FailsOn connection env' f e' →
            e.view = e'.view) := by
  refine ⟨fun α family taken => ⟨fun e => load_eq_error_iff ?_, ?_⟩, ?_⟩
  · intro values f _ run
    obtain ⟨s, ok⟩ := taken values
    cases ok.symm.trans run
  · intro f e e' fails fails'
    cases fails with
    | refused values r shown reason field read run =>
        obtain ⟨s, ok⟩ := taken values
        cases ok.symm.trans run
    | unread _ _ _ _ run =>
        cases fails' with
        | refused values r shown reason field read run' =>
            obtain ⟨s, ok⟩ := taken values
            cases ok.symm.trans run'
        | unread _ _ _ _ run' => exact view_eq_iff_of_readField differ run run'
  · rintro rfl
    refine ⟨fun e => load_eq_error_iff fun values f read run => connection_names read run, ?_⟩
    intro f e e' fails fails'
    rw [eq_of_failsOn differ fails fails']

def numbered : Family (Named Value) where
  word := ""
  fields := [⟨"token", .source "int", none⟩, ⟨"count", .source "int", none⟩]
  finish := .ok

def numbers (token count : String) : Environment := [("TOKEN", token), ("COUNT", count)]

theorem differIn_numbers (token token' count : String) :
    DifferIn "TOKEN" token token' (numbers token count) (numbers token' count) where
  own := rfl
  own' := rfl
  others name other := by simp [numbers, Named.get?_cons, Ne.symm other]

/-- A count that is no number hides the token, whatever it is. -/
theorem numbered_views_eq :
    DifferIn "TOKEN" "1" "2" (numbers "1" "x") (numbers "2" "x") ∧
      ∃ e e', FailsOn numbered (numbers "1" "x") ⟨"count", .source "int", none⟩ e ∧
        FailsOn numbered (numbers "2" "x") ⟨"count", .source "int", none⟩ e' ∧
          e.view = e'.view := by
  have differ := differIn_numbers "1" "2" "x"
  have passed (token : String) (v : Value)
      (read : readField "" (numbers token "x") ⟨"token", .source "int", none⟩ = .ok v) :
      ∀ g ∈ [(⟨"token", .source "int", none⟩ : Field)],
        ∃ v, readField "" (numbers token "x") g = .ok v :=
    List.forall_mem_singleton.mpr ⟨v, read⟩
  have fails : FailsOn numbered (numbers "1" "x") ⟨"count", .source "int", none⟩ _ :=
    .unread [⟨"token", .source "int", none⟩] [] rfl (passed "1" (.int 1) rfl) rfl
  have fails' : FailsOn numbered (numbers "2" "x") ⟨"count", .source "int", none⟩ _ :=
    .unread [⟨"token", .source "int", none⟩] [] rfl (passed "2" (.int 2) rfl) rfl
  have taken : ∀ values, ∃ s, numbered.finish values = .ok s := fun values => ⟨values, rfl⟩
  have alike := ((views_eq_iff differ).1 _ numbered taken).2 _ _ _ fails fails'
  exact ⟨differ, _, _, fails, fails', alike.mpr fun own => absurd own (by decide)⟩

/-- A token that is no number is shown, although its name is a sensitive one. -/
theorem numbered_shows_token :
    Redaction.Policy.standard.covers "token" = true ∧
      DifferIn "TOKEN" "hunter2" "swordfish" (numbers "hunter2" "1") (numbers "swordfish" "1") ∧
        ∃ e e', FailsOn numbered (numbers "hunter2" "1") ⟨"token", .source "int", none⟩ e ∧
          FailsOn numbered (numbers "swordfish" "1") ⟨"token", .source "int", none⟩ e' ∧
            e.view ≠ e'.view := by
  refine ⟨by decide, differIn_numbers _ _ _, _, _, .unread [] _ rfl nofun rfl,
    .unread [] _ rfl nofun rfl, fun same => ?_⟩
  exact absurd (eq_of_view_unreadable same) (by decide)

end Settings

end DocSpace
