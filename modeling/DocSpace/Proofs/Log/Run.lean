import DocSpace.Proofs.Log.Readable
import DocSpace.Space.Basic

set_option autoImplicit false

namespace DocSpace.Log

open Redaction Json

/-- What a program does about its logs. Loggers go by the names that the program has for them, and
connections may configure logging or not. -/
inductive Action where
  | configure (level : Value)
  | connect (source : Settings.Source) (configureLogging : Bool) (env : Environment)
  | setContext (values : Fields)
  | make (as name : String) (values : Fields)
  | bind (on as : String) (values : Fields)
  | log (on : String) (m : Method) (event : Value) (values : Fields)

/-- The threshold that an action sets. Connections set that of the settings, once they are
loaded. -/
def Action.threshold? : Action → Option Int
  | configure level => (State.thresholdOf level).toOption
  | connect source true env =>
    (source.load Settings.connection env).2.toOption.map fun settings => settings.level.number
  | _ => none

/-- The threshold that was set last, if one was set. -/
def latest? : List Action → Option Int
  | [] => none
  | a :: actions => (latest? actions).or a.threshold?

structure Process where
  state : State
  loggers : Named Logger

namespace Process

def keep (w : Process) (as : String) : Except Fault Logger → Process
  | .ok l => { w with loggers := w.loggers.insert as l }
  | .error _ => w

def attach (w : Process) (on : String) (l : Logger) : Process :=
  { w with loggers := w.loggers.insert on (l.attach w.state) }

def step (w : Process) : Action → Process
  | .configure level => { w with state := (w.state.configureBy level .standard).1 }
  | .connect source configureLogging env =>
    { w with state := (Space.ofSource source configureLogging env w.state).2.1 }
  | .setContext values => { w with state := w.state.setContext values }
  | .make as name values => w.keep as (Logger.makeNamed w.state name values)
  | .bind on as values =>
    match w.loggers.get? on with
    | some l => (w.attach on l).keep as (l.bindNamed w.state values)
    | none => w
  | .log on _ _ _ =>
    match w.loggers.get? on with
    | some l => w.attach on l
    | none => w

def run (w : Process) (actions : List Action) : Process := actions.foldl step w

def withoutLoggers (w : Process) : Process := { w with loggers := [] }

end Process

theorem latest?_append (first rest : List Action) :
    latest? (first ++ rest) = (latest? rest).or (latest? first) := by
  induction first with
  | nil => exact Option.or_none.symm
  | cons a first ih => rw [List.cons_append, latest?, latest?, ih, Option.or_assoc]

section Step

variable {w : Process} {a : Action}

@[simp] theorem Process.keep_state (w : Process) (as : String) (l : Except Fault Logger) :
    (w.keep as l).state = w.state := by
  cases l <;> rfl

@[simp] theorem Process.attach_state (w : Process) (on : String) (l : Logger) :
    (w.attach on l).state = w.state := rfl

/-- Connections that fail, or are not to configure logging, leave it as it is. -/
theorem step_connect_eq (w : Process) {source : Settings.Source} {configureLogging : Bool}
    {env : Environment} (idle : configureLogging = false ∨
      ∃ f, (source.load Settings.connection env).2 = .error f) :
    w.step (.connect source configureLogging env) = w := by
  have same : (Space.ofSource source configureLogging env w.state).2.1 = w.state := by
    unfold Space.ofSource
    split
    · rfl
    · next loaded =>
        rcases idle with rfl | ⟨f, failed⟩
        · rfl
        · rw [loaded] at failed
          cases failed
  show { w with state := _ } = w
  rw [same]

theorem step_connect_of_loaded (w : Process) {source : Settings.Source} {env : Environment}
    {settings : ConnectionSettings}
    (loaded : (source.load Settings.connection env).2 = .ok settings) :
    (w.step (.connect source true env)).state =
      w.state.configure settings.level.number .standard := by
  have pair : source.load Settings.connection env =
      ((source.load Settings.connection env).1, .ok settings) := by rw [← loaded]
  show (Space.ofSource source true env w.state).2.1 = _
  rw [Space.ofSource, pair]
  rfl

/-- The ways in which one action changes the state of logging. -/
theorem step_state_cases (w : Process) (a : Action) :
    (∃ t, a.threshold? = some t ∧ (w.step a).state = w.state.configure t .standard) ∨
    (a.threshold? = none ∧ ((w.step a).state = w.state ∨
      (w.step a).state = w.state.install .standard ∨
      ∃ values, (w.step a).state = w.state.setContext values)) := by
  cases a with
  | configure level =>
      have step : (w.step (.configure level)).state = (w.state.configureBy level .standard).1 := rfl
      rw [step, Action.threshold?, State.configureBy]
      cases State.thresholdOf level with
      | ok t => exact Or.inl ⟨t, rfl, rfl⟩
      | error f => exact Or.inr ⟨rfl, Or.inr (Or.inl rfl)⟩
  | connect source configureLogging env =>
      cases configureLogging with
      | false =>
          rw [step_connect_eq w (Or.inl rfl)]
          exact Or.inr ⟨rfl, Or.inl rfl⟩
      | true =>
          cases loaded : (source.load Settings.connection env).2 with
          | error f =>
              rw [step_connect_eq w (Or.inr ⟨f, loaded⟩), Action.threshold?, loaded]
              exact Or.inr ⟨rfl, Or.inl rfl⟩
          | ok settings =>
              refine Or.inl ⟨settings.level.number, ?_, step_connect_of_loaded w loaded⟩
              rw [Action.threshold?, loaded]
              rfl
  | setContext values => exact Or.inr ⟨rfl, Or.inr (Or.inr ⟨values, rfl⟩)⟩
  | make as name values => exact Or.inr ⟨rfl, Or.inl (w.keep_state as _)⟩
  | bind on as values =>
      refine Or.inr ⟨rfl, Or.inl ?_⟩
      rw [Process.step]
      split
      · rw [Process.keep_state, Process.attach_state]
      · rfl
  | log on m event values =>
      refine Or.inr ⟨rfl, Or.inl ?_⟩
      rw [Process.step]
      split <;> rfl

theorem step_threshold (w : Process) (a : Action) :
    (w.step a).state.threshold = a.threshold?.getD w.state.threshold := by
  rcases step_state_cases w a with ⟨t, set, same⟩ | ⟨unset, same | same | ⟨values, same⟩⟩
  · rw [same, set]
    rfl
  all_goals
    rw [same, unset]
    rfl

/-- Logging is configured, and once only. -/
structure State.Configured (s : State) : Prop where
  policy : s.policy = some .standard
  handlers : s.handlers = 1

theorem step_configured (known : w.state.Configured ∨ a.threshold?.isSome) :
    (w.step a).state.Configured := by
  rcases step_state_cases w a with ⟨t, set, same⟩ | ⟨unset, same⟩
  · rw [same]
    exact ⟨rfl, rfl⟩
  · rw [unset] at known
    have before : w.state.Configured := known.resolve_right (by decide)
    rcases same with same | same | ⟨values, same⟩
    · exact same ▸ before
    · rw [same]
      exact ⟨rfl, rfl⟩
    · rw [same]
      exact ⟨before.policy, before.handlers⟩

theorem step_context (distinct : w.state.context.names.Nodup) (a : Action) :
    (w.step a).state.context.names.Nodup := by
  rcases step_state_cases w a with ⟨t, set, same⟩ | ⟨unset, same | same | ⟨values, same⟩⟩
  case inr.inr.inr =>
    have empty : (Named.names ([] : Fields)).Nodup := List.nodup_nil
    rw [same]
    exact Named.nodup_names_insertAll empty values
  all_goals
    rw [same]
    exact distinct

end Step

/-- A logger that hides what the standard policy covers, or will once it is used. -/
structure Logger.Ready (l : Logger) : Prop where
  attachment : l.attachment = .pending ∨ l.attachment = .fixed .standard
  distinct : l.bound.names.Nodup

namespace Logger.Ready

variable {s : State} {l : Logger}

theorem attach_eq (ready : l.Ready) (configured : s.Configured) :
    l.attach s = { l with attachment := .fixed .standard } := by
  rcases ready.attachment with pending | fixed
  · rw [Logger.attach, pending, configured.policy]
  · obtain ⟨name, bound, attachment⟩ := l
    obtain rfl : attachment = .fixed .standard := fixed
    rfl

theorem attach (ready : l.Ready) (configured : s.Configured) : (l.attach s).Ready := by
  rw [ready.attach_eq configured]
  exact ⟨Or.inr rfl, ready.distinct⟩

theorem bind (ready : l.Ready) (configured : s.Configured) (values : Fields) :
    (l.bind s values).Ready := by
  rw [Logger.bind, ready.attach_eq configured]
  exact ⟨Or.inr rfl, Named.nodup_names_insertAll ready.distinct values⟩

theorem named (name : String) : (Logger.named name).Ready := ⟨Or.inl rfl, List.nodup_nil⟩

theorem bindNamed (ready : l.Ready) (configured : s.Configured) {values : Fields} {l' : Logger}
    (run : l.bindNamed s values = .ok l') : l'.Ready := by
  obtain ⟨_, _, run⟩ := bind_eq_ok.mp run
  obtain rfl := Except.ok.inj run
  exact ready.bind configured values

theorem makeNamed (configured : s.Configured) {name : String} {values : Fields} {l' : Logger}
    (run : Logger.makeNamed s name values = .ok l') : l'.Ready := by
  obtain ⟨_, _, run⟩ := bind_eq_ok.mp run
  obtain ⟨_, _, run⟩ := bind_eq_ok.mp run
  obtain rfl := Except.ok.inj run
  rw [Logger.make]
  split
  · exact named name
  · exact (named name).bind configured values

end Logger.Ready

/-- Loggers that were all made since logging was configured. -/
structure Process.Ready (w : Process) : Prop where
  configured : w.state.Configured
  loggers : ∀ e ∈ w.loggers, e.2.Ready

namespace Process.Ready

variable {w : Process}

theorem keep (ready : w.Ready) (as : String) {made : Except Fault Logger}
    (own : ∀ l, made = .ok l → l.Ready) : (w.keep as made).Ready := by
  cases made with
  | error f => exact ready
  | ok l => exact ⟨ready.configured, Named.forall_mem_insert ready.loggers as (own l rfl)⟩

theorem of_get? (ready : w.Ready) {on : String} {l : Logger} (found : w.loggers.get? on = some l) :
    l.Ready := ready.loggers _ (Named.mem_of_get?_eq_some found)

theorem attach (ready : w.Ready) (on : String) {l : Logger} (own : l.Ready) :
    (w.attach on l).Ready :=
  ⟨ready.configured, Named.forall_mem_insert ready.loggers on (own.attach ready.configured)⟩

theorem step (ready : w.Ready) (a : Action) : (w.step a).Ready := by
  have configured : (w.step a).state.Configured := step_configured (Or.inl ready.configured)
  cases a with
  | configure | connect | setContext => exact ⟨configured, ready.loggers⟩
  | make as name values =>
      exact ready.keep as fun l made => Logger.Ready.makeNamed ready.configured made
  | bind on as values =>
      rw [Process.step]
      split
      · next l found =>
          have own := ready.of_get? found
          exact (ready.attach on own).keep as fun _ made => own.bindNamed ready.configured made
      · exact ready
  | log on m event values =>
      rw [Process.step]
      split
      · next l found => exact ready.attach on (ready.of_get? found)
      · exact ready

theorem run (ready : w.Ready) (actions : List Action) : (w.run actions).Ready := by
  induction actions generalizing w with
  | nil => exact ready
  | cons a actions ih => exact ih (ready.step a)

end Process.Ready

section Run

theorem run_threshold (w : Process) (actions : List Action) :
    (w.run actions).state.threshold = (latest? actions).getD w.state.threshold := by
  induction actions generalizing w with
  | nil => rfl
  | cons a actions ih =>
      show ((w.step a).run actions).state.threshold = _
      rw [ih, step_threshold, latest?, Option.getD_or]

theorem run_context {w : Process} (distinct : w.state.context.names.Nodup)
    (actions : List Action) : (w.run actions).state.context.names.Nodup := by
  induction actions generalizing w with
  | nil => exact distinct
  | cons a actions ih => exact ih (step_context distinct a)

theorem run_configured {w : Process} {actions : List Action}
    (known : w.state.Configured ∨ (latest? actions).isSome) :
    (w.run actions).state.Configured := by
  induction actions generalizing w with
  | nil => exact known.resolve_right (by decide)
  | cons a actions ih =>
      apply ih
      rw [latest?, Option.isSome_or, Bool.or_eq_true] at known
      rcases known with before | later | now
      · exact Or.inl (step_configured (Or.inl before))
      · exact Or.inr later
      · exact Or.inl (step_configured (Or.inr now))

/-- Once logging is configured there is one handler, with the threshold that was set last, and a
logger that is made since writes one line for a call whose level counts, and none for another. -/
theorem run_emits_one_line {start w : Process} (distinct : start.state.context.names.Nodup)
    {first rest : List Action} (configured : (latest? first).isSome)
    (ran : (start.run first).withoutLoggers.run rest = w) :
    w.state.handlers = 1 ∧ latest? (first ++ rest) = some w.state.threshold ∧
    (∀ (v : Process) (source : Settings.Source) (configureLogging : Bool) (env : Environment),
      (configureLogging = false ∨ ∃ f, (source.load Settings.connection env).2 = .error f) →
        v.step (.connect source configureLogging env) = v) ∧
    ∀ (on : String) (l : Logger) (m : Method) (event : Value) (values : Fields),
      w.loggers.get? on = some l → Fits w.state.context → Fits l.bound → Fits values →
      (∀ n ∈ values.names, n ∉ taken) → IsJson event →
      ∃ hs, redactDeep .standard (toRecord (eventFields l.bound (m.complete values) event)) =
          .ok (toRecord hs) ∧
        if w.state.threshold ≤ m.level.number then
          ∃ line, l.emit w.state m event values = .ok [line] ∧
            decode line = .ok (toRecord (lineOf w.state l m hs))
        else l.emit w.state m event values = .ok [] := by
  subst ran
  have ready : (start.run first).withoutLoggers.Ready :=
    ⟨run_configured (Or.inr configured), fun e member => absurd member List.not_mem_nil⟩
  have after := ready.run rest
  have context := run_context (w := (start.run first).withoutLoggers)
    (run_context distinct first) rest
  refine ⟨after.configured.handlers, ?_, fun v source configureLogging env idle =>
    step_connect_eq v idle, fun on l m event values found fitting bound fits free json => ?_⟩
  · obtain ⟨t, set⟩ := Option.isSome_iff_exists.mp configured
    have before : (start.run first).withoutLoggers.state.threshold = t := by
      show (start.run first).state.threshold = t
      rw [run_threshold, set]
      rfl
    rw [latest?_append, run_threshold, before, set]
    cases latest? rest <;> rfl
  · have own := after.of_get? found
    have fixed := own.attach_eq after.configured
    exact emit_of_fits (by rw [fixed]) after.configured.handlers context own.distinct fitting bound
      fits free json m

def starting : List Action := [.configure (.text "LOUD"), .configure (.int 10)]

def session : List Action :=
  [.make "log" "app" [("user", .text "ann")], .connect .environment true [],
    .configure (.text "INFO"), .setContext [("request", .int 7)]]

def inSession : Process where
  state := ⟨some .standard, 20, [("request", .int 7)], 1, ""⟩
  loggers := [("log", ⟨"app", [("user", .text "ann")], .fixed .standard⟩)]

/-- One handler is left of three. The token is hidden in the line of a warning, the request and the
rest are added, and a call that is only for debugging leaves no line. -/
theorem session_emits_one_line :
    inSession.state.handlers = 1 ∧ latest? (starting ++ session) = some 20 ∧
    (∃ line, (Logger.mk "app" [("user", .text "ann")] (.fixed .standard)).emit inSession.state
        (.plain .warning) (.text "left") [("token", .text "t")] = .ok [line] ∧
      decode line = .ok (toRecord [("user", .text "ann"), ("token", .text "[REDACTED]"),
        ("event", .text "left"), ("request", .int 7), ("logger", .text "app"),
        ("level", .text "warning")])) ∧
    (Logger.mk "app" [("user", .text "ann")] (.fixed .standard)).emit inSession.state
      (.plain .debug) (.text "left") [("token", .text "t")] = .ok [] := by
  have start : State.initial.context.names.Nodup := List.nodup_nil
  have configured : (latest? starting).isSome := rfl
  have ran : ((Process.mk .initial []).run starting).withoutLoggers.run session = inSession := rfl
  obtain ⟨handlers, latest, _, calls⟩ := run_emits_one_line start configured ran
  have call (m : Method) := calls "log" _ m (.text "left") [("token", .text "t")] rfl
    (Fits.singleton (by decide) (.int (by decide))) (Fits.singleton (by decide) (.text "ann"))
    (Fits.singleton (by decide) (.text "t")) (by decide) (.text "left")
  obtain ⟨hs, redacted, line⟩ := call (.plain .warning)
  obtain ⟨_, _, quiet⟩ := call (.plain .debug)
  have hidden : hs = [("user", .text "ann"), ("token", .text "[REDACTED]"),
      ("event", .text "left")] := toRecord_injective (Except.ok.inj redacted).symm
  subst hidden
  exact ⟨handlers, latest, line, quiet⟩

end Run

end DocSpace.Log
