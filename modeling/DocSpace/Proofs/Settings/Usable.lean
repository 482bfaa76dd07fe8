import DocSpace.Proofs.Settings.Connection
import DocSpace.Proofs.Settings.Load
import DocSpace.Proofs.Signature
import DocSpace.Settings.Source

set_option autoImplicit false

namespace DocSpace

namespace Double

/-- What is not a number is not positive. -/
def IsPositive : Double → Prop
  | finite n m e => 0 < (quotient n m e).1
  | infinite n => n = false
  | notANumber => False

/-- A number that is not zero or below is positive, unless it is none. -/
theorem isPositive_of_isAtMostZero {d : Double} (above : d.isAtMostZero = false)
    (number : d ≠ notANumber) : d.IsPositive := by
  cases d with
  | finite n m e =>
      simp only [isAtMostZero, Bool.or_eq_false_iff, beq_eq_false_iff_ne] at above
      obtain ⟨rfl, nonzero⟩ := above
      have mantissa : 0 < m := Nat.pos_of_ne_zero nonzero
      have power : 0 < pow2 e.toNat := Nat.two_pow_pos e.toNat
      have numerator : 0 < m * pow2 e.toNat := Nat.mul_pos mantissa power
      simp only [IsPositive, quotient, Bool.false_eq_true, ↓reduceIte]
      exact_mod_cast numerator
  | infinite n => exact above
  | notANumber => exact absurd rfl number

end Double

theorem Level.number_mem (l : Level) : l.number ∈ [10, 20, 30, 40, 50] := by
  cases l <;> decide

def Value.Numeric.IsPositive : Numeric → Prop
  | whole i => 0 < i
  | double d => d.IsPositive

namespace ConnectionSettings

open Settings

/-- A value of the type that a field is declared with: a number for the timeout, truth values
among them, and a text for any other field. -/
def IsTyped (name : String) (v : Value) : Prop :=
  if name = "timeout" then v.numeric?.isSome = true else v.asText?.isSome = true

/-- Values of the types of all fields. -/
structure AreTyped (spaceName apiKey baseUrl timeout logLevel : Value) : Prop where
  spaceName : IsTyped "space_name" spaceName
  apiKey : IsTyped "api_key" apiKey
  baseUrl : IsTyped "base_url" baseUrl
  timeout : IsTyped "timeout" timeout
  logLevel : IsTyped "log_level" logLevel

/-- Ways to settings. -/
inductive Arises (s : ConnectionSettings) : Prop where
  | built {spaceName apiKey baseUrl timeout logLevel : Value}
      (typed : AreTyped spaceName apiKey baseUrl timeout logLevel)
      (run : make spaceName apiKey baseUrl timeout logLevel = .ok s)
  | named {arguments : Named Value} (typed : ∀ e ∈ arguments, IsTyped e.1 e.2)
      (run : ofArguments arguments = .ok s)
  | loaded (source : Source) (env : Environment)
      (run : (source.load connection env).2 = .ok s)

/-- What holds of all settings. The level is the one that its field names. -/
structure Sound (s : ConnectionSettings) : Prop where
  named : ∃ name, s.spaceName.asText? = some name ∧ name ≠ ""
  keyed : ∃ key, s.apiKey.asText? = some key ∧ key ≠ ""
  trimmed : s.baseUrl.toList.getLast? ≠ some '/'
  leveled : ∃ name, s.logLevel.asText? = some name ∧ Level.ofName? name = some s.level
  standard : s.level.number ∈ [10, 20, 30, 40, 50]

structure Usable (s : ConnectionSettings) : Prop extends Sound s where
  timely : ∃ n, s.timeout.numeric? = some n ∧ n.IsPositive

theorem isTyped_text (name : String) (other : name ≠ "timeout") (s : String) :
    IsTyped name (.text s) := by
  rw [IsTyped, if_neg other]
  rfl

theorem isTyped_double (d : Double) : IsTyped "timeout" (.double d) := by
  rw [IsTyped, if_pos rfl]
  rfl

theorem isTyped_defaults : ∀ e ∈ defaults, IsTyped e.1 e.2 := by
  intro e member
  simp only [defaults, List.mem_cons, List.not_mem_nil, or_false] at member
  rcases member with rfl | rfl | rfl
  · exact isTyped_text "base_url" (by decide) _
  · exact isTyped_double _
  · exact isTyped_text "log_level" (by decide) _

section Named

variable {arguments : Named Value} {m : Matched Value}

theorem mem_of_construct
    (run : signature.construct "DokuflowSettings" [] arguments = .ok m) {e : String × Value}
    (member : e ∈ m.values) (other : e.1 ≠ receiver) : e ∈ arguments := by
  have matched := Signature.assign_eq_ok (mapError_eq_ok.mp run)
  rcases matched.1 e member with first | given
  · -- by position only the object itself is given
    have alone : e = (receiver, Value.null) := List.mem_singleton.mp first
    exact absurd (congrArg Prod.fst alone) other
  · exact given

theorem contains_of_construct
    (run : signature.construct "DokuflowSettings" [] arguments = .ok m) {n : String}
    (required : n ∈ signature.required) : m.values.contains n = true :=
  (Signature.assign_eq_ok (mapError_eq_ok.mp run)).2 n (List.mem_cons_of_mem _ required)

/-- Arguments of their fields' types leave every field with a value of its type. -/
theorem built_of_ofArguments {s : ConnectionSettings}
    (typed : ∀ e ∈ arguments, IsTyped e.1 e.2) (run : ofArguments arguments = .ok s) :
    ∃ spaceName apiKey baseUrl timeout logLevel,
      AreTyped spaceName apiKey baseUrl timeout logLevel ∧
        make spaceName apiKey baseUrl timeout logLevel = .ok s := by
  obtain ⟨m, constructed, made⟩ := bind_eq_ok.mp run
  rw [lift_eq_ok] at constructed
  have own (name : String) (field : name ∈ fieldNames) :
      IsTyped name ((m.values.get? name <|> defaults.get? name).getD .null) := by
    cases given : m.values.get? name with
    | some v =>
        have other : name ≠ receiver := by
          rintro rfl
          exact absurd field (by decide)
        have member := mem_of_construct constructed (Named.mem_of_get?_eq_some given) other
        exact typed _ member
    | none =>
        cases default : defaults.get? name with
        | some v => exact isTyped_defaults _ (Named.mem_of_get?_eq_some default)
        | none =>
            have required : name ∈ signature.required :=
              List.mem_filter.mpr ⟨field, by rw [← Named.get?_isSome, default]; rfl⟩
            have present := contains_of_construct constructed required
            rw [← Named.get?_isSome, given] at present
            cases present
  have typed : AreTyped _ _ _ _ _ := {
    spaceName := own "space_name" (by decide)
    apiKey := own "api_key" (by decide)
    baseUrl := own "base_url" (by decide)
    timeout := own "timeout" (by decide)
    logLevel := own "log_level" (by decide) }
  exact ⟨_, _, _, _, _, typed, made⟩

end Named

/-- Fields of connection settings are read as what they are declared as. -/
theorem isTyped_of_readField {env : Environment} {f : Field} (field : f ∈ connection.fields)
    {v : Value} (run : readField connection.word env f = .ok v) : IsTyped f.name v := by
  have default {w : Value} (given : f.default? = some w)
      (own : f.default? = defaults.get? f.name) : IsTyped f.name w := by
    rw [own] at given
    exact isTyped_defaults _ (Named.mem_of_get?_eq_some given)
  simp only [connection, fieldNames, List.zip_cons_cons, List.zip_nil_left, List.map_cons,
    List.map_nil, List.mem_cons, List.not_mem_nil, or_false] at field
  rcases readField_eq_ok.mp run with ⟨raw, _, read⟩ | ⟨_, given⟩
  · rcases field with rfl | rfl | rfl | rfl | rfl
    · exact Except.ok.inj read ▸ isTyped_text _ (by decide) raw
    · exact Except.ok.inj read ▸ isTyped_text _ (by decide) raw
    · exact Except.ok.inj read ▸ isTyped_text _ (by decide) raw
    · obtain ⟨d, _, rfl⟩ := map_eq_ok.mp read
      exact isTyped_double d
    · exact Except.ok.inj read ▸ isTyped_text _ (by decide) raw
  · rcases field with rfl | rfl | rfl | rfl | rfl
    all_goals exact default given rfl

theorem named_of_load {s : ConnectionSettings} {env : Environment}
    (run : load connection env = .ok s) :
    ∃ arguments, (∀ e ∈ arguments, IsTyped e.1 e.2) ∧ ofArguments arguments = .ok s := by
  obtain ⟨values, read, made⟩ := load_eq_ok.mp run
  refine ⟨values, fun e member => ?_, made⟩
  obtain ⟨f, field, name, own⟩ := exists_of_mem_readFields read member
  rw [name]
  exact isTyped_of_readField field own

theorem getLast?_trimSlashes (s : String) : (trimSlashes s).toList.getLast? ≠ some '/' := by
  rw [trimSlashes, String.toList_ofList, List.getLast?_reverse]
  intro last
  have kept := List.head?_dropWhile_not (· = '/') s.toList.reverse
  rw [last] at kept
  exact absurd kept (by decide)

theorem exists_text_of_truthy {v : Value} (text : v.asText?.isSome = true)
    (filled : v.truthy = true) : ∃ s, v.asText? = some s ∧ s ≠ "" := by
  cases v with
  | text s => exact ⟨s, rfl, bne_iff_ne.mp filled⟩
  | textMember _ _ s => exact ⟨s, rfl, bne_iff_ne.mp filled⟩
  | _ => cases text

theorem isPositive_of_isAtMostZero {v : Value} (above : isAtMostZero v = .ok false)
    (number : v ≠ .double .notANumber) : ∃ n, v.numeric? = some n ∧ n.IsPositive := by
  unfold isAtMostZero at above
  split at above
  · next i whole =>
      have positive := of_decide_eq_false (Except.ok.inj above)
      exact ⟨.whole i, whole, Int.not_le.mp positive⟩
  · next d double =>
      have same : v = .double d := by
        cases v <;> simp [Value.numeric?] at double
        rw [double]
      refine ⟨.double d, double, Double.isPositive_of_isAtMostZero (Except.ok.inj above) ?_⟩
      rintro rfl
      exact number same
  · cases above

theorem ofName?_of_levelOf {v : Value} {level : Level} (run : levelOf v = .ok level) :
    ∃ name, v.asText? = some name ∧ Level.ofName? name = some level := by
  unfold levelOf at run
  split at run
  · next name text =>
      split at run
      · next known => exact ⟨name, text, Except.ok.inj run ▸ known⟩
      · exact absurd run (refuse_ne_ok _ _ _ _)
  · exact absurd run (refuse_ne_ok _ _ _ _)
  · cases run

theorem trimmed_of_baseUrlOf {v : Value} {url : String} (text : v.asText?.isSome = true)
    (run : baseUrlOf v = .ok url) : url.toList.getLast? ≠ some '/' := by
  obtain ⟨s, own⟩ := Option.isSome_iff_exists.mp text
  simp only [baseUrlOf, own] at run
  exact Except.ok.inj run ▸ getLast?_trimSlashes s

/-- Settings from values of their fields' types are sound, and usable if the timeout is a number. -/
theorem usable_of_make {spaceName apiKey baseUrl timeout logLevel : Value}
    {s : ConnectionSettings}
    (typed : AreTyped spaceName apiKey baseUrl timeout logLevel)
    (run : make spaceName apiKey baseUrl timeout logLevel = .ok s) :
    s.Sound ∧ (s.timeout ≠ .double .notANumber → s.Usable) := by
  obtain ⟨named, keyed, ordered, level, url, known, based, rfl⟩ := make_eq_ok.mp run
  have sound : Sound ⟨spaceName, apiKey, url, timeout, logLevel, level⟩ := {
    named := exists_text_of_truthy typed.spaceName named
    keyed := exists_text_of_truthy typed.apiKey keyed
    trimmed := trimmed_of_baseUrlOf typed.baseUrl based
    leveled := ofName?_of_levelOf known
    standard := Level.number_mem level }
  exact ⟨sound, fun number => ⟨sound, isPositive_of_isAtMostZero ordered number⟩⟩

/-- Settings that exist are sound, and usable just if their timeout is a number. -/
theorem arises_usable_iff {s : ConnectionSettings} (arises : s.Arises) :
    s.Sound ∧ (s.Usable ↔ s.timeout ≠ .double .notANumber) := by
  have built : s.Sound ∧ (s.timeout ≠ .double .notANumber → s.Usable) := by
    cases arises with
    | built typed run => exact usable_of_make typed run
    | named typed run =>
        obtain ⟨_, _, _, _, _, typed, made⟩ := built_of_ofArguments typed run
        exact usable_of_make typed made
    | loaded source env run =>
        obtain ⟨env', loaded⟩ : ∃ env', load connection env' = .ok s := by
          unfold Source.load at run
          split at run
          · cases run
          · next env' _ => exact ⟨env', run⟩
        obtain ⟨arguments, typed, given⟩ := named_of_load loaded
        obtain ⟨_, _, _, _, _, typed, made⟩ := built_of_ofArguments typed given
        exact usable_of_make typed made
  refine ⟨built.1, fun usable timeout => ?_, built.2⟩
  obtain ⟨n, number, positive⟩ := usable.timely
  rw [timeout] at number
  obtain rfl := Option.some.inj number
  exact positive

def waitingFor (timeout : String) : Environment :=
  [("DOKUFLOW_SPACE_NAME", "acme"), ("DOKUFLOW_API_KEY", "k"), ("DOKUFLOW_TIMEOUT", timeout)]

def waiting (timeout : Double) : ConnectionSettings :=
  ⟨.text "acme", .text "k", defaultBaseUrl, .double timeout, .text "INFO", .info⟩

/-- Half a second is written with any number of digits. -/
theorem waiting_arises_usable_iff :
    (waiting (.ofDecimal false 5 (-1))).Arises ∧
      (waiting (.ofDecimal false 5 (-1))).Sound ∧
        ((waiting (.ofDecimal false 5 (-1))).Usable ↔
          (waiting (.ofDecimal false 5 (-1))).timeout ≠ .double .notANumber) := by
  have run : (Source.environment.load connection (waitingFor " +0.5_0 ")).2 =
      .ok (waiting (.ofDecimal false 5 (-1))) := rfl
  have arises := Arises.loaded .environment (waitingFor " +0.5_0 ") run
  exact ⟨arises, arises_usable_iff arises⟩

/-- A timeout that is not a number passes every check. -/
theorem waiting_forever_not_usable :
    (Source.environment.load connection (waitingFor "nan")).2 = .ok (waiting .notANumber) ∧
      (waiting .notANumber).Arises ∧ ¬ (waiting .notANumber).Usable := by
  have run : (Source.environment.load connection (waitingFor "nan")).2 =
      .ok (waiting .notANumber) := rfl
  refine ⟨run, .loaded .environment (waitingFor "nan") run, fun usable => ?_⟩
  obtain ⟨n, number, positive⟩ := usable.timely
  obtain rfl := Option.some.inj number
  exact positive

end ConnectionSettings

end DocSpace
