import DocSpace.Proofs.Log.Blocked
import DocSpace.Proofs.Log.Run
import DocSpace.Proofs.Log.Sources

set_option autoImplicit false

namespace DocSpace.Log

open Redaction

/-- What a program does about its logs and what they hide. -/
inductive Move where
  | configure (level : Value) (fields : List String)
  | setContext (values : Fields)
  | make (as name : String) (values : Fields)
  | bind (on as : String) (values : Fields)
  | log (on : String) (m : Method) (event : Value) (values : Fields)

namespace Move

def policy? : Move → Option Policy
  | configure _ fields => some (.ofFields fields)
  | _ => none

/-- Whether a logger is used. It is not by a call that its values keep from being made. -/
def uses (on : String) : Move → Bool
  | bind on' _ values => on' = on && !values.contains receiver
  | log on' _ _ _ => on' = on
  | _ => false

def target? : Move → Option String
  | make as _ _ | bind _ as _ => some as
  | _ => none

end Move

def beforeUse (on : String) (ms : List Move) : List Move := ms.takeWhile fun a => !a.uses on

def latestPolicy? (ms : List Move) : Option Policy := (ms.filterMap Move.policy?).getLast?

namespace Process

def move (w : Process) : Move → Process
  | .configure level fields => { w with state := (w.state.configureBy level (.ofFields fields)).1 }
  | .setContext values => { w with state := w.state.setContext values }
  | .make as name values => w.keep as (Logger.makeNamed w.state name values)
  | .bind on as values =>
    match w.loggers.get? on with
    | some l =>
      match l.bindNamed w.state values with
      | .ok l' => (w.attach on l).keep as (.ok l')
      | .error _ => w
    | none => w
  | .log on _ _ _ =>
    match w.loggers.get? on with
    | some l => w.attach on l
    | none => w

def play (w : Process) (ms : List Move) : Process := ms.foldl move w

end Process

/-- Fields of a line with what a policy covers hidden in them, as far as it goes by names of the
event. The logger and the level are the line's own, and so is the stack where it is asked for. -/
structure Hidden (p : Policy) (asks : Bool) (names : List String) (fs : Fields) : Prop where
  masked : ∀ f ∈ fs, f.1 ∈ names → p.covers f.1 = true → f.1 ≠ "logger" → f.1 ≠ "level" →
    (f.1 = stackField → asks = false) → f.2 = hiddenValue
  shown : ∀ n ∈ names, p.covers n = true → n ∉ overwritten → n ≠ recordField →
    (n = stackField → asks = false) → (n, hiddenValue) ∈ fs

section Line

variable {p : Policy} {s : State} {l : Logger} {fs hs : Fields}

theorem eq_hiddenValue_of_mem (run : hideFields p fs = .ok hs) {f : String × Value}
    (member : f ∈ hs) (covered : p.covers f.1 = true) : f.2 = hiddenValue := by
  induction fs generalizing hs with
  | nil =>
      obtain rfl := Except.ok.inj run
      exact absurd member List.not_mem_nil
  | cons g fs ih =>
      rw [hideFields_cons] at run
      obtain ⟨w, own, run⟩ := bind_eq_ok.mp run
      obtain ⟨rest, others, rfl⟩ := map_eq_ok.mp run
      rcases List.mem_cons.mp member with rfl | later
      · rw [if_pos covered] at own
        exact (Except.ok.inj own).symm
      · exact ih others later

/-- The context adds fields of other names only. -/
theorem mem_of_mem_addContext {context : Fields} {f : String × Value}
    (member : f ∈ addContext context hs) (own : f.1 ∈ hs.names) : f ∈ hs := by
  unfold addContext at member
  induction context generalizing hs with
  | nil => exact member
  | cons c context ih =>
      have before : f ∈ hs.insertNew c.1 c.2 :=
        ih member (Named.mem_names_insertNew.mpr (.inl own))
      rw [Named.insertNew] at before
      split at before
      · exact before
      · next absent =>
          refine (List.mem_append.mp before).resolve_right fun added => ?_
          rw [List.mem_singleton.mp added] at own
          exact absent (Named.contains_iff.mpr own)

theorem mem_of_mem_addStack {stack : String} {f : String × Value} (member : f ∈ addStack stack fs)
    (unasked : f.1 = stackField → asksForStack fs = false) : f ∈ fs := by
  rw [addStack] at member
  split at member
  · next asks =>
      refine (Named.eq_or_mem_of_mem_insert member).resolve_left fun same => ?_
      have off := unasked (same ▸ rfl)
      exact Bool.false_ne_true (off.symm.trans asks)
  · exact member

theorem hidden_arrange (run : hideFields p fs = .ok hs) (context : Fields) (level : Level)
    (stack : String) (name : Value) :
    Hidden p (asksForStack (addContext context hs)) fs.names
      (arrange level stack (addContext context hs) name) where
  masked := by
    intro f member own covered logger word unasked
    rw [← asksForStack_leveled _ name (.text level.word)] at unasked
    have placed := mem_of_mem_addStack (List.mem_filter.mp member).1 unasked
    have named := (Named.eq_or_mem_of_mem_insert placed).resolve_left fun same => word (same ▸ rfl)
    have added := (Named.eq_or_mem_of_mem_insert named).resolve_left fun same => logger (same ▸ rfl)
    rw [← names_hideFields run] at own
    exact eq_hiddenValue_of_mem run (mem_of_mem_addContext added own) covered
  shown := by
    intro n own covered shown other unasked
    rw [← names_hideFields run, ← Named.contains_iff, ← Named.get?_isSome] at own
    obtain ⟨v, found⟩ := Option.isSome_iff_exists.mp own
    obtain rfl : v = hiddenValue :=
      eq_hiddenValue_of_mem run (Named.mem_of_get?_eq_some found) covered
    refine mem_arrange ?_ shown other unasked level stack name
    rw [get?_addContext, found, Option.some_or]

theorem eq_some_of_mem_write {line : String} {line? : Option String}
    (member : line ∈ s.write line?) : line? = some line := by
  obtain ⟨own, given, copy⟩ := List.mem_flatMap.mp member
  rw [List.eq_of_mem_replicate copy]
  exact Option.mem_toList.mp given

/-- The lines of a call hide what the policy of its logger covers. -/
theorem emit_hidden (fixed : (l.attach s).attachment = .fixed p) {m : Method} {event : Value}
    {values : Fields} {lines : List String} (run : l.emit s m event values = .ok lines) :
    ∀ line ∈ lines, ∃ fields, Json.encode Json.logStyle (toRecord fields) = .ok line ∧
      Hidden p (showsStack p s.context (eventFields l.bound (m.complete values) event))
        (eventFields l.bound (m.complete values) event).names fields := by
  intro line member
  obtain ⟨line?, logged, same⟩ := bind_eq_ok.mp run
  obtain rfl := Except.ok.inj same
  obtain rfl := eq_some_of_mem_write member
  have call : (Sources.mk s.context l.bound values).line? s l m event = .ok (some line) := logged
  rw [Sources.line?_eq fixed] at call
  obtain ⟨_, _, call⟩ := bind_eq_ok.mp call
  obtain ⟨hs, hidden, call⟩ := bind_eq_ok.mp call
  obtain ⟨name, _, shown⟩ := map_eq_ok.mp call
  rw [written] at shown
  split at shown
  · have own : hideFields p (eventFields l.bound (m.complete values) event) = .ok hs := hidden
    refine ⟨_, toOption_eq_some.mp shown, ?_⟩
    rw [showsStack_eq own]
    exact hidden_arrange own s.context m.level s.stack name
  · cases shown

end Line

section Play

variable {w : Process} {l : Logger} {on : String} {a : Move}

theorem latestPolicy?_cons (a : Move) (ms : List Move) :
    latestPolicy? (a :: ms) = (latestPolicy? ms).or a.policy? := by
  rw [latestPolicy?, List.filterMap_cons]
  cases a.policy? with
  | none => exact Option.or_none.symm
  | some p =>
      rw [List.getLast?_cons, latestPolicy?]
      cases (ms.filterMap Move.policy?).getLast? <;> rfl

theorem move_policy (w : Process) (a : Move) :
    (w.move a).state.policy = a.policy?.or w.state.policy := by
  cases a with
  | configure level fields =>
      rw [Process.move, State.configureBy]
      cases State.thresholdOf level <;> rfl
  | setContext => rfl
  | make as name values => rw [Process.move, Process.keep_state]; rfl
  | bind on as values =>
      rw [Process.move]
      split
      · split
        · rw [Process.keep_state, Process.attach_state]
          rfl
        · rfl
      · rfl
  | log on m event values =>
      rw [Process.move]
      split <;> rfl

theorem play_policy (w : Process) (ms : List Move) :
    (w.play ms).state.policy = (latestPolicy? ms).or w.state.policy := by
  induction ms generalizing w with
  | nil => rfl
  | cons a ms ih =>
      show ((w.move a).play ms).state.policy = _
      rw [ih, move_policy, latestPolicy?_cons, Option.or_assoc]

theorem latestPolicy?_append (ms others : List Move) :
    latestPolicy? (ms ++ others) = (latestPolicy? others).or (latestPolicy? ms) := by
  rw [latestPolicy?, List.filterMap_append, List.getLast?_append]
  rfl

theorem isSome_policy_play (configured : w.state.policy.isSome) (ms : List Move) :
    (w.play ms).state.policy.isSome := by
  rw [play_policy, Option.isSome_or, configured, Bool.or_true]

theorem play_append (w : Process) (ms others : List Move) :
    w.play (ms ++ others) = (w.play ms).play others := List.foldl_append

theorem get?_keep_of_ne {as : String} (other : on ≠ as) (w : Process) (made : Except Fault Logger) :
    (w.keep as made).loggers.get? on = w.loggers.get? on := by
  cases made with
  | ok l => exact Named.get?_insert_of_ne other l
  | error f => rfl

theorem bindNamed_isOk (l : Logger) (s : State) (values : Fields) :
    (l.bindNamed s values).isOk = !values.contains receiver := by
  have free : refuse (l.kind ++ ".bind") [receiver] values = .ok () ↔
      values.contains receiver = false := by
    simp only [refuse_eq_ok_iff, List.mem_singleton, List.forall_mem_ne', ← Bool.not_eq_true,
      Named.contains_iff]
  rw [Logger.bindNamed]
  cases known : values.contains receiver with
  | false =>
      rw [free.mpr known]
      rfl
  | true =>
      cases run : refuse (l.kind ++ ".bind") [receiver] values with
      | ok _ => exact absurd (known.symm.trans (free.mp run)) Bool.true_eq_false.mp
      | error f => rfl

/-- A move changes a logger that it uses, and no other unless it puts one in its place. -/
theorem get?_move (found : w.loggers.get? on = some l) (kept : a.target? ≠ some on) :
    (w.move a).loggers.get? on = some (if a.uses on then l.attach w.state else l) := by
  cases a with
  | configure | setContext => exact found
  | make as name values =>
      have other : on ≠ as := fun same => kept (same ▸ rfl)
      exact (get?_keep_of_ne other w _).trans found
  | bind on' as values =>
      have other : on ≠ as := fun same => kept (same ▸ rfl)
      rw [Process.move]
      by_cases same : on' = on
      · subst same
        have free := bindNamed_isOk l w.state values
        rw [found, Move.uses, decide_eq_true (Eq.refl on'), Bool.true_and, ← free]
        dsimp only
        cases l.bindNamed w.state values with
        | ok l' => exact (get?_keep_of_ne other _ _).trans (Named.get?_insert_self _ _ _)
        | error f => exact found
      · rw [Move.uses, decide_eq_false same, Bool.false_and, if_neg Bool.false_ne_true]
        split
        · split
          · rw [get?_keep_of_ne other]
            exact (Named.get?_insert_of_ne (Ne.symm same) _).trans found
          · exact found
        · exact found
  | log on' m event values =>
      rw [Process.move]
      by_cases same : on' = on
      · subst same
        rw [found, Move.uses, if_pos (decide_eq_true rfl)]
        exact Named.get?_insert_self _ _ _
      · rw [Move.uses, decide_eq_false same, if_neg Bool.false_ne_true]
        split
        · exact (Named.get?_insert_of_ne (Ne.symm same) _).trans found
        · exact found

theorem attach_of_ne_pending {l : Logger} (used : l.attachment ≠ .pending) (s : State) :
    l.attach s = l := by
  unfold Logger.attach
  split
  · next pending _ => exact absurd pending used
  · rfl

theorem attachment_attach_ne_pending {s : State} (configured : s.policy.isSome) (l : Logger) :
    (l.attach s).attachment ≠ .pending := by
  obtain ⟨p, policy⟩ := Option.isSome_iff_exists.mp configured
  intro pending
  unfold Logger.attach at pending
  split at pending
  · cases pending
  · next other => exact other p pending policy

theorem beforeUse_cons (on : String) (a : Move) (ms : List Move) :
    beforeUse on (a :: ms) = if a.uses on then [] else a :: beforeUse on ms := by
  rw [beforeUse, List.takeWhile_cons]
  cases a.uses on <;> rfl

/-- A logger that waits for its policy takes the one in force just before its first use. -/
theorem get?_play (found : w.loggers.get? on = some l) {ms : List Move}
    (kept : ∀ a ∈ ms, a.target? ≠ some on)
    (configured : (w.play (beforeUse on ms)).state.policy.isSome) :
    ∃ l', (w.play ms).loggers.get? on = some l' ∧
      l'.attach (w.play ms).state = l.attach (w.play (beforeUse on ms)).state := by
  induction ms generalizing w l with
  | nil => exact ⟨l, found, rfl⟩
  | cons a ms ih =>
      obtain ⟨own, others⟩ := List.forall_mem_cons.mp kept
      have now := get?_move found own
      rw [beforeUse_cons] at configured ⊢
      cases used : a.uses on with
      | false =>
          simp only [used, Bool.false_eq_true, ↓reduceIte] at now configured ⊢
          exact ih now others configured
      | true =>
          -- From here on the logger has its policy for good, whatever comes next.
          simp only [used, ↓reduceIte] at now configured ⊢
          obtain ⟨l', last, same⟩ := ih now others (isSome_policy_play configured (a :: _))
          exact ⟨l', last, same.trans
            (attach_of_ne_pending (attachment_attach_ne_pending configured l) _)⟩

theorem attachment_make_of_policy {s : State} {p : Policy} (policy : s.policy = some p)
    (name : String) (values : Fields) :
    (Logger.make s name values).attachment = if values.isEmpty then .pending else .fixed p := by
  rw [Logger.make]
  split
  · rfl
  · rw [Logger.bind, Logger.attach, Logger.named, policy]

theorem makeNamed_of_free {values : Fields} (free : ∀ n ∈ values.names, n ∉ ["name", receiver])
    (s : State) (name : String) : Logger.makeNamed s name values = .ok (.make s name values) := by
  have first : refuse "get_logger" ["name"] values = .ok () :=
    (refuse_eq_ok_iff _ _ _).mpr fun n member taken => free n member (List.mem_append_left _ taken)
  have second : refuse ((Logger.named name).kind ++ ".bind") [receiver] values = .ok () :=
    (refuse_eq_ok_iff _ _ _).mpr fun n member taken => free n member (List.mem_cons_of_mem _ taken)
  rw [Logger.makeNamed, first, second]
  rfl

/-- What a program did up to the moment when a logger got its policy for good. It made the logger
with values after the first moves, or used it among the rest. -/
def untilAttached (on : String) (values : Fields) (first rest : List Move) : List Move :=
  if values.isEmpty then first ++ beforeUse on rest else first

/-- The policy that a new logger takes before its first use among the rest. -/
theorem attachment_make_play {start v : Process} {first rest : List Move} {values : Fields}
    {p : Policy} (policy : latestPolicy? (untilAttached on values first rest) = some p)
    (state : v.state = (start.play first).state) (name : String) :
    (v.play (beforeUse on rest)).state.policy.isSome ∧
      ((Logger.make v.state name values).attach (v.play (beforeUse on rest)).state).attachment =
        .fixed p := by
  rw [untilAttached] at policy
  split at policy
  · next empty =>
      have there : (v.play (beforeUse on rest)).state.policy = some p := by
        rw [play_policy, state, play_policy, ← Option.or_assoc, ← latestPolicy?_append, policy,
          Option.some_or]
      refine ⟨by rw [there]; rfl, ?_⟩
      rw [Logger.make, if_pos empty, Logger.named, Logger.attach, there]
  · next filled =>
      have here : v.state.policy = some p := by rw [state, play_policy, policy, Option.some_or]
      have own := attachment_make_of_policy here name values
      rw [if_neg filled] at own
      have used : (Logger.make v.state name values).attachment ≠ .pending := by
        intro pending
        cases own.symm.trans pending
      refine ⟨isSome_policy_play (by rw [here]; rfl) _, ?_⟩
      rw [attach_of_ne_pending used, own]

/-- A logger hides what the policy covers that was configured last when the logger got its own. -/
theorem play_lines_hidden {start w : Process} {first rest : List Move} {on name : String}
    {values : Fields} {p : Policy}
    (policy : latestPolicy? (untilAttached on values first rest) = some p)
    (free : ∀ n ∈ values.names, n ∉ ["name", receiver]) (kept : ∀ a ∈ rest, a.target? ≠ some on)
    (ran : start.play (first ++ .make on name values :: rest) = w) :
    ∃ l, w.loggers.get? on = some l ∧
      ∀ m event more lines, l.emit w.state m event more = .ok lines → ∀ line ∈ lines,
        ∃ fields, Json.encode Json.logStyle (toRecord fields) = .ok line ∧
          Hidden p (showsStack p w.state.context (eventFields l.bound (m.complete more) event))
            (eventFields l.bound (m.complete more) event).names fields := by
  obtain ⟨v, made⟩ : ∃ v, (start.play first).move (.make on name values) = v := ⟨_, rfl⟩
  have state : v.state = (start.play first).state := by
    rw [← made, Process.move, Process.keep_state]
  have found : v.loggers.get? on = some (.make v.state name values) := by
    rw [state, ← made, Process.move, makeNamed_of_free free]
    exact Named.get?_insert_self _ _ _
  obtain ⟨configured, attached⟩ := attachment_make_play policy state name
  obtain ⟨l, last, same⟩ := get?_play found kept configured
  have final : v.play rest = w := by
    rw [← ran, ← made, play_append]
    rfl
  rw [final] at last same
  exact ⟨l, last, fun m event more lines run => emit_hidden (by rw [same, attached]) run⟩

def Process.initial : Process := ⟨.initial, []⟩

def inUse (p : Policy) : Logger := ⟨"app", [], .fixed p⟩

/-- A program whose logger may have got its policy from an earlier configuration than the last. -/
def settled (latest own : Policy) : Process where
  state := ⟨some latest, 20, [], 1, ""⟩
  loggers := [("log", inUse own)]

theorem settled_emits (latest own : Policy) {values : Fields} (fits : Fits values)
    (free : ∀ n ∈ values.names, n ∉ taken) :
    ∃ hs line, redactDeep own (toRecord (eventFields [] values (.text "login"))) =
        .ok (toRecord hs) ∧
      (inUse own).emit (settled latest own).state (.plain .info) (.text "login") values =
        .ok [line] ∧
      Json.decode line = .ok (toRecord
        (lineOf (settled latest own).state (inUse own) (.plain .info) hs)) := by
  have fixed : ((inUse own).attach (settled latest own).state).attachment = .fixed own := rfl
  have distinct : (Named.names ([] : Fields)).Nodup := List.nodup_nil
  have empty : Fits [] := ⟨nofun, nofun⟩
  obtain ⟨hs, redacted, line, written, read⟩ := emit_of_fits fixed rfl distinct distinct empty empty
    fits free (.text "login") (.plain .info)
  exact ⟨hs, line, redacted, written, read⟩

/-- Fields are chosen once more before the logger is used, and again after that. -/
def renewals : List Move :=
  [.configure (.int 20) ["ssn"], .log "log" (.plain .info) (.text "start") [],
    .configure (.int 20) []]

/-- The lines hide what was chosen before the logger was used. -/
theorem renewals_lines_hidden :
    latestPolicy? (untilAttached "log" [] [.configure (.int 20) ["token"]] renewals) =
        some ⟨["ssn"]⟩ ∧
      (∀ a ∈ renewals, a.target? ≠ some "log") ∧
      Process.initial.play ([.configure (.int 20) ["token"]] ++ .make "log" "app" [] :: renewals) =
        settled .standard ⟨["ssn"]⟩ ∧
      ∃ line, (inUse ⟨["ssn"]⟩).emit (settled .standard ⟨["ssn"]⟩).state (.plain .info)
          (.text "login") [("SSN", .text "123")] = .ok [line] ∧
        ∃ fields, Json.encode Json.logStyle (toRecord fields) = .ok line ∧
          Hidden ⟨["ssn"]⟩ false ["SSN", "event"] fields := by
  have policy : latestPolicy? (untilAttached "log" [] [.configure (.int 20) ["token"]] renewals) =
      some ⟨["ssn"]⟩ := rfl
  have kept : ∀ a ∈ renewals, a.target? ≠ some "log" := by decide
  have ran : Process.initial.play ([.configure (.int 20) ["token"]] ++
      .make "log" "app" [] :: renewals) = settled .standard ⟨["ssn"]⟩ := rfl
  have own : Fits [("SSN", .text "123")] := Fits.singleton (by decide) (.text "123")
  obtain ⟨_, line, _, written, _⟩ := settled_emits .standard ⟨["ssn"]⟩ own (by decide)
  obtain ⟨l, found, lines⟩ := play_lines_hidden policy nofun kept ran
  obtain rfl : inUse ⟨["ssn"]⟩ = l := Option.some.inj found
  exact ⟨policy, kept, ran, line, written, lines _ _ _ _ written line List.mem_cons_self⟩

/-- Fields are chosen once more after a logger has been used. -/
def lateChoice : List Move :=
  [.configure (.int 20) ["token"], .make "log" "app" [],
    .log "log" (.plain .info) (.text "start") [], .configure (.int 20) ["ssn"]]

/-- The stack is chosen as a secret. -/
def stackChoice : List Move := [.configure (.int 20) ["stack"], .make "log" "app" []]

def calling : Process := ⟨{ State.initial with stack := "main" }, []⟩

/-- A logger in use shows what was chosen last, and any logger shows the calls under way where they
are asked for, even if the stack was chosen. -/
theorem lateChoice_shows :
    (Process.initial.play lateChoice = settled ⟨["ssn"]⟩ ⟨["token"]⟩ ∧
      latestPolicy? lateChoice = some ⟨["ssn"]⟩ ∧ (Policy.mk ["ssn"]).covers "ssn" = true ∧
      ∃ line, (inUse ⟨["token"]⟩).emit (settled ⟨["ssn"]⟩ ⟨["token"]⟩).state (.plain .info)
          (.text "login") [("ssn", .text "123")] = .ok [line] ∧
        Json.decode line = .ok (toRecord [("ssn", .text "123"), ("event", .text "login"),
          ("logger", .text "app"), ("level", .text "info")]) ∧
        ¬ Hidden ⟨["ssn"]⟩ false ["ssn", "event"] [("ssn", .text "123"), ("event", .text "login"),
          ("logger", .text "app"), ("level", .text "info")]) ∧
    (calling.play stackChoice).loggers.get? "log" = some (.named "app") ∧
      latestPolicy? stackChoice = some ⟨["stack"]⟩ ∧ (Policy.mk ["stack"]).covers "stack" = true ∧
      (Logger.named "app").emit (calling.play stackChoice).state (.plain .info) (.text "login")
          [("stack", .text "x"), ("stack_info", .bool true)] =
        .ok ["\x7b\"stack\": \"main\", \"event\": \"login\", \"logger\": \"app\", " ++
          "\"level\": \"info\"\x7d"] := by
  have covered : (Policy.mk ["ssn"]).covers "ssn" = true := by decide
  have own : Fits [("ssn", .text "123")] := Fits.singleton (by decide) (.text "123")
  obtain ⟨hs, line, redacted, written, read⟩ := settled_emits ⟨["ssn"]⟩ ⟨["token"]⟩ own (by decide)
  have plain : hs = [("ssn", .text "123"), ("event", .text "login")] :=
    toRecord_injective (Except.ok.inj redacted).symm
  subst plain
  refine ⟨⟨rfl, rfl, covered, line, written, read, fun hidden => ?_⟩, rfl, rfl, by decide, rfl⟩
  have masked : Value.text "123" = hiddenValue :=
    hidden.masked ("ssn", .text "123") List.mem_cons_self List.mem_cons_self covered
      (by decide) (by decide) (by decide)
  exact absurd (Value.text.inj masked) (by decide)

end Play

end DocSpace.Log
