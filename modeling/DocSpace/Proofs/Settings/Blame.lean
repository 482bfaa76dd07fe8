import DocSpace.Proofs.Settings.Load
import DocSpace.Proofs.Settings.Source
import DocSpace.Proofs.Text.LetterCase

set_option autoImplicit false

namespace DocSpace.Settings

open Text

variable {α : Type}

/-- The name of a field behind the first word, in capitals and without underscores in front. -/
def keyOf (word name : String) : String :=
  String.ofList ((upper (word ++ "_" ++ name)).toList.dropWhile (· = '_'))

theorem variableName_eq_keyOf (word name : String) : variableName word name = keyOf word name := by
  simp only [variableName, keyOf, upper_append, upper_upper]

/-- Which value a field has: that of its variable, or its default where there is no variable. -/
inductive Given (word : String) (env : Environment) (f : Field) : Value → Prop where
  | variable {raw : String} {v : Value} (set : env.get? (keyOf word f.name) = some raw)
      (read : coerce f.annotation raw = .ok v) : Given word env f v
  | default {v : Value} (unset : env.get? (keyOf word f.name) = none)
      (default : f.default? = some v) : Given word env f v

/-- What a field is blamed for: it has neither a variable nor a default, or its type cannot read the
variable. -/
inductive Blamed (word : String) (env : Environment) (f : Field) : Failure → Prop where
  | missing (unset : env.get? (keyOf word f.name) = none) (bare : f.default? = none) :
      Blamed word env f (.report (.missingSetting (.text (keyOf word f.name))))
  | unparsable {raw : String} {fault : Fault} (set : env.get? (keyOf word f.name) = some raw)
      (refused : coerce f.annotation raw = .error fault) (value : fault.label = "ValueError") :
      Blamed word env f (unreadable (keyOf word f.name) raw fault)

def AreGiven (family : Family α) (env : Environment) (values : Named Value) : Prop :=
  List.Forall₂ (fun f e => e.1 = f.name ∧ Given family.word env f e.2) family.fields values

/-- How a load may end: with the first field that is to blame, with settings, or with the report of
why there are none. -/
inductive Promised (family : Family α) (env : Environment) : Except Failure α → Prop where
  | blamed {before after : List Field} {f : Field} {e : Failure}
      (fields : family.fields = before ++ f :: after)
      (passed : ∀ g ∈ before, ∃ v, Given family.word env g v)
      (first : Blamed family.word env f e) : Promised family env (.error e)
  | made {values : Named Value} {s : α} (given : AreGiven family env values)
      (finish : family.finish values = .ok s) : Promised family env (.ok s)
  | kept {values : Named Value} {e : Failure} (given : AreGiven family env values)
      (finish : family.finish values = .error e) (about : e.IsConfig) :
      Promised family env (.error e)
  | wrapped {values : Named Value} {e : Failure} {message : String}
      (given : AreGiven family env values) (finish : family.finish values = .error e)
      (other : ¬e.IsConfig)
      (told : ∀ t, e.text = .ok t → message = "Failed to load settings: " ++ t) :
      Promised family env (.error (.caused (.plain .config message) e))

/-- Values of all fields are refused with a failure that is no report about configuration, and that
has no text but the fault `f`. -/
def Unprintable (family : Family α) (env : Environment) (f : Fault) : Prop :=
  ∃ values e, AreGiven family env values ∧ family.finish values = .error e ∧ ¬e.IsConfig ∧
    e.text = .error f

section Fields

variable {word : String} {env : Environment} {f : Field}

theorem label_of_coerce_eq_error {a : Annotation} {raw : String} {fault : Fault}
    (refused : coerce a raw = .error fault) : fault.label = "ValueError" := by
  unfold coerce at refused
  split at refused
  · cases refused
  · have whole := map_eq_error.mp refused
    unfold readWhole at whole
    split at whole <;> cases whole <;> rfl
  · have double := map_eq_error.mp refused
    unfold readDouble at double
    split at double <;> cases double
    rfl
  · cases refused
  · cases refused

theorem readField_eq_ok_iff {v : Value} : readField word env f = .ok v ↔ Given word env f v := by
  rw [readField_eq_ok, variableName_eq_keyOf]
  constructor
  · rintro (⟨raw, set, read⟩ | ⟨unset, default⟩)
    · exact .variable set read
    · exact .default unset default
  · rintro (⟨set, read⟩ | ⟨unset, default⟩)
    · exact .inl ⟨_, set, read⟩
    · exact .inr ⟨unset, default⟩

theorem readField_eq_error_iff {e : Failure} :
    readField word env f = .error e ↔ Blamed word env f e := by
  rw [readField_eq_error, variableName_eq_keyOf]
  constructor
  · rintro (⟨raw, fault, set, refused, rfl⟩ | ⟨unset, bare, rfl⟩)
    · exact .unparsable set refused (label_of_coerce_eq_error refused)
    · exact .missing unset bare
  · rintro (⟨unset, bare⟩ | ⟨set, refused, _⟩)
    · exact .inr ⟨unset, bare, rfl⟩
    · exact .inl ⟨_, _, set, refused, rfl⟩

theorem areGiven_iff {family : Family α} {values : Named Value} :
    AreGiven family env values ↔ readFields family.word env family.fields = .ok values := by
  simp only [AreGiven, readFields_eq_ok, readField_eq_ok_iff]

theorem Blamed.isConfig {e : Failure} (blamed : Blamed word env f e) : e.IsConfig := by
  cases blamed with
  | missing unset bare => exact ⟨_, rfl, rfl⟩
  | unparsable set refused value => exact ⟨_, rfl, rfl⟩

end Fields

section Wrapping

variable {e : Failure}

theorem wrap_of_not_isConfig (other : ¬e.IsConfig) :
    wrap e =
      e.text.map fun t => .caused (.plain .config ("Failed to load settings: " ++ t)) e := by
  have unlike : e.report?.map (·.kind.isConfig) ≠ some true := by
    intro config
    obtain ⟨r, report, about⟩ := Option.map_eq_some_iff.mp config
    exact other ⟨r, report, about⟩
  unfold wrap
  split
  · next config => exact absurd config unlike
  · cases e.text <;> rfl

theorem wrapped_of_text (other : ¬e.IsConfig) {t : String} (told : e.text = .ok t) :
    wrapped e = .caused (.plain .config ("Failed to load settings: " ++ t)) e := by
  rw [wrapped, wrap_of_not_isConfig other, told]
  rfl

theorem wrapped_of_no_text (other : ¬e.IsConfig) {f : Fault} (untold : e.text = .error f) :
    wrapped e = .fault f := by
  rw [wrapped, wrap_of_not_isConfig other, untold]
  rfl

end Wrapping

section Loads

variable {family : Family α} {env : Environment}

theorem load_of_unprintable {f : Fault} (unprintable : Unprintable family env f) :
    load family env = .error (.fault f) := by
  obtain ⟨values, e, given, finish, other, untold⟩ := unprintable
  rw [load_eq_error, ← wrapped_of_no_text other untold]
  exact .inr ⟨values, e, areGiven_iff.mp given, finish, rfl⟩

/-- A load does what it promises, if what it reports has a text. -/
theorem promised_load (printable : ∀ f, ¬Unprintable family env f) :
    Promised family env (load family env) := by
  cases run : load family env with
  | ok s =>
      obtain ⟨values, read, finish⟩ := load_eq_ok.mp run
      exact .made (areGiven_iff.mpr read) finish
  | error e =>
      rcases load_eq_error.mp run with unread | ⟨values, e, read, finish, rfl⟩
      · obtain ⟨before, f, after, fields, passed, first⟩ := readFields_eq_error.mp unread
        refine .blamed fields (fun g member => ?_) (readField_eq_error_iff.mp first)
        obtain ⟨v, own⟩ := passed g member
        exact ⟨v, readField_eq_ok_iff.mp own⟩
      · have given := areGiven_iff.mpr read
        by_cases about : e.IsConfig
        · rw [wrapped_eq_self about]
          exact .kept given finish about
        · cases told : e.text with
          | error f => exact absurd ⟨values, e, given, finish, about, told⟩ (printable f)
          | ok t =>
              rw [wrapped_of_text about told]
              refine .wrapped given finish about fun t' same => ?_
              rw [Except.ok.inj (told.symm.trans same)]

theorem Promised.load_eq {x : Except Failure α} (promised : Promised family env x)
    (printable : ∀ f, ¬Unprintable family env f) : load family env = x := by
  cases promised with
  | made given finish => exact load_eq_ok.mpr ⟨_, areGiven_iff.mp given, finish⟩
  | @blamed before after f e fields passed first =>
      refine load_eq_error.mpr (.inl (readFields_eq_error.mpr ?_))
      refine ⟨before, f, after, fields, fun g member => ?_, readField_eq_error_iff.mpr first⟩
      obtain ⟨v, own⟩ := passed g member
      exact ⟨v, readField_eq_ok_iff.mpr own⟩
  | kept given finish about =>
      exact load_eq_error.mpr
        (.inr ⟨_, _, areGiven_iff.mp given, finish, (wrapped_eq_self about).symm⟩)
  | @wrapped values e message given finish other told =>
      -- Without a text any message would be as promised, so the text is what fixes it.
      cases text : e.text with
      | error f => exact absurd ⟨values, e, given, finish, other, text⟩ (printable f)
      | ok t =>
          rw [told t text, ← wrapped_of_text other text]
          exact load_eq_error.mpr (.inr ⟨_, _, areGiven_iff.mp given, finish, rfl⟩)

theorem Promised.isConfig {e : Failure} (promised : Promised family env (.error e)) :
    e.IsConfig := by
  cases promised with
  | blamed fields passed first => exact first.isConfig
  | kept given finish about => exact about
  | wrapped given finish other told => exact ⟨_, rfl, rfl⟩

/-- A fault is never promised. -/
theorem load_promised_iff :
    (∀ x, Promised family env x ↔ load family env = x) ↔
      ∀ f, ¬Unprintable family env f := by
  constructor
  · intro agrees f unprintable
    have promised := (agrees _).mpr (load_of_unprintable unprintable)
    obtain ⟨r, report, _⟩ := promised.isConfig
    cases report
  · intro printable x
    refine ⟨fun promised => promised.load_eq printable, ?_⟩
    rintro rfl
    exact promised_load printable

/-- Variables that belong to no field do not count. -/
theorem load_congr {env' : Environment}
    (same : ∀ f ∈ family.fields,
      env'.get? (keyOf family.word f.name) = env.get? (keyOf family.word f.name)) :
    load family env' = load family env := by
  have fields : readFields family.word env' family.fields =
      readFields family.word env family.fields := by
    refine mapM_congr fun f member => ?_
    have own := same f member
    rw [← variableName_eq_keyOf] at own
    simp only [readField, own]
  rw [load, load, fields]

end Loads

section Classes

variable {c : Class α} {family : Family α}

/-- The family of fields that a class is. A declared one has its own fields, and its objects go
through the steps that its methods do. -/
inductive Class.Reads : Class α → Family α → Prop where
  | family (family : Family α) : Reads (.family family) family
  | declared {d : Declaration} {word : String} (finish : Named Value → Except Failure α)
      (known : d.upperWord = .ok word) :
      Reads (.declared d finish) ⟨word, d.ownFields, fun values => do
        d.runSteps values
        finish values⟩

theorem Class.Reads.load_eq (reads : c.Reads family) (env : Environment) :
    c.load .environment env = (env, Settings.load family env) := by
  cases reads with
  | family family => rfl
  | declared finish known =>
      simp only [Class.load, Declaration.load, known]
      rfl

/-- A load from the environment leaves the environment as it is, depends on the variables of the
fields only, and ends as promised, with a report about configuration whenever it fails, just if no
failure that it would have to report is without a text; such a failure it fails with itself. -/
theorem load_environment_promised_iff (reads : c.Reads family) (env : Environment) :
    (c.load .environment env).1 = env ∧
      (∀ env' : Environment,
        (∀ f ∈ family.fields,
          env'.get? (keyOf family.word f.name) = env.get? (keyOf family.word f.name)) →
        (c.load .environment env').2 = (c.load .environment env).2) ∧
      ((∀ x, Promised family env x ↔ (c.load .environment env).2 = x) ↔
        ∀ f, ¬Unprintable family env f) ∧
      (∀ f, Unprintable family env f → (c.load .environment env).2 = .error (.fault f)) ∧
      ∀ e, Promised family env (.error e) → e.IsConfig := by
  simp only [reads.load_eq]
  exact ⟨trivial, fun env' same => load_congr same, load_promised_iff,
    fun f unprintable => load_of_unprintable unprintable, fun e promised => promised.isConfig⟩

end Classes

def gauge : Family (Named Value) where
  word := "_app"
  fields := [⟨"name", .source "str", some (.text "main")⟩, ⟨"port", .source "int", none⟩,
    ⟨"limit", .source "int", none⟩]
  finish := .ok

/-- The port is to blame, and not the limit behind it. -/
theorem gauge_load_promised :
    (Class.family gauge).Reads gauge ∧ keyOf "_app" "port" = "APP_PORT" ∧
      ((Class.family gauge).load .environment [("APP_PORT", "x")]).2 =
        .error (unreadable "APP_PORT" "x" (.notWhole "x")) ∧
      ∀ x, Promised gauge [("APP_PORT", "x")] x ↔
        ((Class.family gauge).load .environment [("APP_PORT", "x")]).2 = x := by
  have printable : ∀ f, ¬Unprintable gauge [("APP_PORT", "x")] f := by
    rintro f ⟨values, e, _, finish, _⟩
    cases finish
  have reads : (Class.family gauge).Reads gauge := .family gauge
  exact ⟨reads, by decide, rfl, (load_environment_promised_iff reads _).2.2.1.mpr printable⟩

/-- A class that refuses its values with a message that no document can hold. -/
def clashing : Family (Named Value) where
  word := ""
  fields := [⟨"port", .source "int", some (.int 1)⟩]
  finish _ := .error (.report
    (.validation (.dict [(.tuple [.int 1, .int 2], .text "overlap")]) .null .null .null))

/-- All values are there, but the load fails with a fault instead of a report. -/
theorem clashing_load_not_promised :
    AreGiven clashing [("PORT", "5")] [("port", .int 5)] ∧
      ((Class.family clashing).load .environment [("PORT", "5")]).2 =
        .error (.fault (.keyNotEncodable "tuple")) ∧
      ¬Promised clashing [("PORT", "5")]
        ((Class.family clashing).load .environment [("PORT", "5")]).2 := by
  refine ⟨areGiven_iff.mpr rfl, rfl, fun promised => ?_⟩
  obtain ⟨r, report, _⟩ := promised.isConfig
  cases report

end DocSpace.Settings
