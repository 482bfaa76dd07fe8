import DocSpace.Proofs.Log.Sources

set_option autoImplicit false

namespace DocSpace.Log

open Redaction

namespace Sources

/-- A sensitive context variable whose name the event has not. -/
structure Surfaces (src : Sources) (p : Policy) (m : Method) (event : Value) (name : String) :
    Prop where
  known : name ∈ src.context.names
  covered : p.covers name = true
  absent : name ∉ (src.fields m event).names

/-- It reaches the line, the name of the logger in it, or the choice to show the calls under way.
Where these are shown for certain they replace what has their name. -/
structure Exposes (src : Sources) (p : Policy) (m : Method) (event : Value) (name : String) :
    Prop extends Surfaces src p m event name where
  kept : name = stackRequest ∨ name ∉ overwritten
  unreplaced : name = stackField → showsStack p src.context (src.fields m event) = true →
    src.Surfaces p m event stackRequest

variable {p : Policy} {s : State} {l : Logger} {src other : Sources} {m : Method} {event : Value}
  {hs : Fields}

theorem exists_line (fixed : (l.attach s).attachment = .fixed p) (keyed : src.StringKeyed)
    (taken : (l.attach s).checkValues m src.values = .ok ())
    (hidden : hideFields p (src.fields m event) = .ok hs) (keyedFields : AreStringKeyed hs)
    {name : Value} (named : nameIn l.name (addContext src.context hs) = .ok name)
    (counts : s.threshold ≤ m.level.number) :
    ∃ text, src.line? s l m event = .ok (some text) := by
  have all := areStringKeyed_addContext keyedFields keyed.context
  have line := areStringKeyed_arrange all (isStringKeyed_nameIn all named) m.level s.stack
  obtain ⟨text, encoded⟩ := Json.encode_ok _ (isStringKeyed_toRecord line)
  refine ⟨text, ?_⟩
  rw [line?_of_steps fixed taken hidden named, written, if_pos counts, encoded]
  rfl

/-- What differs before the line is arranged are variables that surface. -/
theorem addContext_surfaces (alike : src.Alike p other)
    (hidden : hideFields p (src.fields m event) = .ok hs) :
    Named.Alike (src.Surfaces p m event) (addContext src.context hs)
      (addContext other.context hs) := by
  refine addContext_alike alike.context (Named.Alike.refl _ hs) fun n known covered absent => ?_
  rw [names_hideFields hidden] at absent
  exact ⟨known, covered, absent⟩

theorem Surfaces.count_le {n : String} (surfaces : src.Surfaces p m event n)
    (hidden : hideFields p (src.fields m event) = .ok hs) :
    (addContext src.context hs).names.count n ≤ 1 := by
  apply count_names_addContext_le
  rw [names_hideFields hidden, List.count_eq_zero_of_not_mem surfaces.absent]
  exact Nat.zero_le 1

/-- A variable that surfaces has the value of the context. -/
theorem Surfaces.get?_eq {n : String} (surfaces : src.Surfaces p m event n)
    (hidden : hideFields p (src.fields m event) = .ok hs) (context : Fields) :
    (addContext context hs).get? n = context.get? n := by
  have absent : hs.get? n = none := by
    rw [Named.get?_eq_none, names_hideFields hidden]
    exact surfaces.absent
  rw [get?_addContext, absent, Option.none_or]

/-- Secrets that are bound or given to the call never show. -/
theorem line?_eq_of_context_eq (fixed : (l.attach s).attachment = .fixed p)
    (alike : src.Alike p other) (same : src.context = other.context) (m : Method)
    (event : Value) : other.line? s l m event = src.line? s l m event := by
  rw [line?_eq fixed, line?_eq fixed, ← checkValues_eq alike.values,
    ← hideFields_eq (alike.fields m event), same]

theorem written_of_unexposed (alike : src.Alike p other)
    (hidden : hideFields p (src.fields m event) = .ok hs)
    (unexposed : ∀ n, ¬src.Exposes p m event n) (s : State) (level : Level) (name : Value) :
    written s level (addContext other.context hs) name =
      written s level (addContext src.context hs) name := by
  have free : ¬src.Surfaces p m event stackRequest := by
    intro surfaces
    exact unexposed _ ⟨surfaces, Or.inl rfl, fun _ _ => surfaces⟩
  have gone (n : String) (surfaces : src.Surfaces p m event n)
      (unasked : n = stackField → asksForStack (addContext src.context hs) = false) :
      n ∈ overwritten := by
    by_contra kept
    refine unexposed n ⟨surfaces, Or.inr kept, fun same shows => ?_⟩
    rw [showsStack_eq hidden, unasked same] at shows
    cases shows
  rw [written, written, arrange_eq (addContext_surfaces alike hidden)
    (fun n surfaces => surfaces.count_le hidden) free gone]

/-- Nothing sensitive is shown where no variable is exposed, or nothing is written. -/
theorem line?_eq_of_alike (fixed : (l.attach s).attachment = .fixed p) (keyed : src.StringKeyed)
    (own : event.isStringKeyed = true) (alike : src.Alike p other)
    (harmless : ∀ n, src.Exposes p m event n → (l.attach s).checkValues m src.values ≠ .ok () ∨
      (n ≠ recordField ∧ ∀ line, src.line? s l m event ≠ .ok (some line))) :
    other.line? s l m event = src.line? s l m event := by
  obtain ⟨hs, hidden, keyedFields⟩ := hideFields_ok p (areStringKeyed_fields keyed own m)
  have surface := addContext_surfaces alike hidden
  rw [line?_eq fixed, line?_eq fixed, ← checkValues_eq alike.values,
    ← hideFields_eq (alike.fields m event), hidden]
  cases taken : (l.attach s).checkValues m src.values with
  | error f => rfl
  | ok _ =>
      have quiet (n : String) (exposed : src.Exposes p m event n) :=
        (harmless n exposed).resolve_left fun refused => refused taken
      have record : ¬src.Surfaces p m event recordField := by
        intro surfaces
        have apart : recordField ≠ stackField := by decide
        have exposed : src.Exposes p m event recordField :=
          ⟨surfaces, Or.inr (by decide), fun same => absurd same apart⟩
        exact (quiet recordField exposed).1 rfl
      simp only [Except.bind, ← nameIn_eq (surface.get?_eq record)]
      cases named : nameIn l.name (addContext src.context hs) with
      | error f => rfl
      | ok name =>
          by_cases counts : s.threshold ≤ m.level.number
          · obtain ⟨text, line⟩ :=
              exists_line fixed keyed taken hidden keyedFields named counts
            have unexposed (n : String) (exposed : src.Exposes p m event n) : False :=
              (quiet n exposed).2 text line
            rw [Except.map, Except.map, written_of_unexposed alike hidden unexposed]
          · simp only [Except.map, written, if_neg counts]

def withVariable (src : Sources) (name : String) (v : Value) : Sources :=
  { src with context := src.context.map fun f => if f.1 = name then (name, v) else f }

theorem get?_withVariable {n : String} (known : n ∈ src.context.names) (v : Value) :
    (src.withVariable n v).context.get? n = some v := by
  obtain ⟨context, bound, values⟩ := src
  simp only [withVariable] at known ⊢
  induction context with
  | nil => exact absurd known List.not_mem_nil
  | cons f context ih =>
      rw [List.map_cons, Named.get?_cons]
      by_cases same : f.1 = n
      · simp only [same, ↓reduceIte]
      · simp only [same, ↓reduceIte]
        exact ih ((List.mem_cons.mp known).resolve_left fun equal => same equal.symm)

theorem get?_withVariable_of_ne {n k : String} (other : k ≠ n) (src : Sources) (v : Value) :
    (src.withVariable n v).context.get? k = src.context.get? k := by
  obtain ⟨context, bound, values⟩ := src
  simp only [withVariable]
  induction context with
  | nil => rfl
  | cons f context ih =>
      rw [List.map_cons, Named.get?_cons, Named.get?_cons, ih]
      by_cases same : f.1 = n
      · rw [if_pos same, if_neg (Ne.symm other), if_neg (same ▸ Ne.symm other)]
      · rw [if_neg same]

theorem alike_withVariable {n : String} (covered : p.covers n = true) (src : Sources) (v : Value) :
    src.Alike p (src.withVariable n v) where
  context := by
    refine List.forall₂_map_right_iff.mpr (List.forall₂_same.mpr fun f _ => ?_)
    split
    · next same => exact ⟨same, Or.inl (same ▸ covered)⟩
    · exact ⟨rfl, Or.inr rfl⟩
  bound := Named.Alike.refl _ _
  values := Named.Alike.refl _ _

theorem stringKeyed_withVariable (keyed : src.StringKeyed) (n : String) {v : Value}
    (own : v.isStringKeyed = true) : (src.withVariable n v).StringKeyed where
  context := by
    intro f member
    obtain ⟨g, old, rfl⟩ := List.mem_map.mp member
    split
    · exact own
    · exact keyed.context g old
  bound := keyed.bound
  values := keyed.values

theorem Surfaces.get?_withVariable {n : String} (surfaces : src.Surfaces p m event n)
    (hidden : hideFields p (src.fields m event) = .ok hs) (v : Value) :
    (addContext (src.withVariable n v).context hs).get? n = some v :=
  (surfaces.get?_eq hidden _).trans (Sources.get?_withVariable surfaces.known v)

/-- A line is as long as every text that is arranged in it. -/
theorem length_le_of_arranged (fixed : (l.attach s).attachment = .fixed p) {n text line : String}
    (arranged : ∀ hs name, hideFields p (src.fields m event) = .ok hs →
      (n, .text text) ∈ arrange m.level s.stack (addContext src.context hs) name)
    (run : src.line? s l m event = .ok (some line)) : text.length ≤ line.length := by
  rw [line?_eq fixed] at run
  obtain ⟨_, _, run⟩ := bind_eq_ok.mp run
  obtain ⟨hs, hidden, run⟩ := bind_eq_ok.mp run
  obtain ⟨name, _, run⟩ := map_eq_ok.mp run
  rw [written] at run
  split at run
  · have encoded := toOption_eq_some.mp run
    exact Json.length_le_of_encode encoded (List.mem_map_of_mem (arranged hs name hidden))
  · cases run

/-- A record that is missing leaves the logger its name, and a number has none. -/
theorem Exposes.record_shows (exposed : src.Exposes p m event recordField)
    (fixed : (l.attach s).attachment = .fixed p) (keyed : src.StringKeyed)
    (own : event.isStringKeyed = true) (taken : (l.attach s).checkValues m src.values = .ok ()) :
    (src.withVariable recordField .null).line? s l m event ≠
      (src.withVariable recordField (.int 0)).line? s l m event := by
  obtain ⟨hs, hidden, _⟩ := hideFields_ok p (areStringKeyed_fields keyed own m)
  have shown (v : Value) :
      (addContext (src.withVariable recordField v).context hs).get? recordField = some v :=
    exposed.get?_withVariable hidden v
  have run (v : Value) : (src.withVariable recordField v).line? s l m event =
      (nameIn l.name (addContext (src.withVariable recordField v).context hs)).map
        (written s m.level (addContext (src.withVariable recordField v).context hs)) := by
    have steps := line?_eq fixed (src.withVariable recordField v) m event
    rwa [show (src.withVariable recordField v).values = src.values from rfl, taken,
      show (src.withVariable recordField v).fields m event = src.fields m event from rfl,
      hidden] at steps
  rw [run, run, nameIn, nameIn, shown, shown]
  intro equal
  cases equal

/-- A text that is longer than the line does not fit into it. -/
theorem Exposes.text_shows {n : String} (exposed : src.Exposes p m event n)
    (fixed : (l.attach s).attachment = .fixed p) (other : n ≠ recordField)
    (quiet : ¬src.Surfaces p m event stackRequest) {text line : String}
    (long : line.length < text.length) :
    (src.withVariable n (.text text)).line? s l m event ≠ .ok (some line) := by
  intro run
  have apart : n ≠ stackRequest := by
    rintro rfl
    exact quiet exposed.toSurfaces
  have arranged (hs : Fields) (name : Value) (hidden : hideFields p (src.fields m event) = .ok hs) :
      (n, .text text) ∈ arrange m.level s.stack
        (addContext (src.withVariable n (.text text)).context hs) name := by
    refine mem_arrange (exposed.get?_withVariable hidden _) (exposed.kept.resolve_left apart) other
      (fun same => ?_) _ _ _
    have unchanged : asksForStack (addContext (src.withVariable n (.text text)).context hs) =
        showsStack p src.context (src.fields m event) := by
      rw [showsStack_eq hidden, asksForStack, asksForStack, get?_addContext, get?_addContext,
        get?_withVariable_of_ne (Ne.symm apart)]
    rw [unchanged, Bool.eq_false_iff]
    exact fun shows => quiet (exposed.unreplaced same shows)
  exact Nat.not_lt.mpr (length_le_of_arranged fixed arranged run) long

/-- Without being asked for it a line does not show the stack. -/
theorem line?_of_unasked (fixed : (l.attach s).attachment = .fixed p)
    (unasked : showsStack p src.context (src.fields m event) = false) (stack : String) :
    src.line? { s with stack } l m event = src.line? s l m event := by
  rw [line?_eq fixed, line?_eq (s := { s with stack }) fixed]
  cases hidden : hideFields p (src.fields m event) with
  | error f => rfl
  | ok hs =>
      rw [showsStack_eq hidden] at unasked
      have same (name : Value) :
          written { s with stack } m.level (addContext src.context hs) name =
            written s m.level (addContext src.context hs) name := by
        rw [written, written, arrange_of_unasked unasked, arrange_of_unasked unasked]
      simp only [Except.bind, funext same]
      rfl

theorem Surfaces.asksForStack_withVariable (surfaces : src.Surfaces p m event stackRequest)
    (hidden : hideFields p (src.fields m event) = .ok hs) (b : Bool) :
    asksForStack (addContext (src.withVariable stackRequest (.bool b)).context hs) = b := by
  rw [asksForStack, surfaces.get?_withVariable hidden]
  rfl

/-- A secret variable that asks for the stack, or not, is shown by it where the stack is longer than
the line without it. -/
theorem Surfaces.stack_shows (surfaces : src.Surfaces p m event stackRequest)
    (fixed : (l.attach s).attachment = .fixed p) {stack line : String}
    (long : line.length < stack.length)
    (run : (src.withVariable stackRequest (.bool false)).line? s l m event = .ok (some line)) :
    (src.withVariable stackRequest (.bool true)).line? { s with stack } l m event ≠
      (src.withVariable stackRequest (.bool false)).line? { s with stack } l m event := by
  have unasked : showsStack p (src.withVariable stackRequest (.bool false)).context
      ((src.withVariable stackRequest (.bool false)).fields m event) = false := by
    rw [showsStack]
    split
    · next hs hidden => exact surfaces.asksForStack_withVariable hidden false
    · rfl
  rw [line?_of_unasked fixed unasked, run]
  intro loud
  have arranged (hs : Fields) (name : Value) (hidden : hideFields p (src.fields m event) = .ok hs) :
      (stackField, .text stack) ∈ arrange m.level stack
        (addContext (src.withVariable stackRequest (.bool true)).context hs) name :=
    stack_mem_arrange (surfaces.asksForStack_withVariable hidden true) m.level stack name
  have bound := length_le_of_arranged (s := { s with stack }) fixed arranged loud
  exact Nat.not_lt.mpr bound long

theorem exists_longer (line : String) : ∃ text : String, line.length < text.length := by
  refine ⟨String.ofList (List.replicate (line.length + 1) 'a'), ?_⟩
  rw [String.length_ofList, List.length_replicate]
  exact Nat.lt_succ_self _

/-- Whether a line is written has nothing to do with the stack. -/
theorem exists_line_of_stack (fixed : (l.attach s).attachment = .fixed p) (keyed : src.StringKeyed)
    (own : event.isStringKeyed = true) {stack line : String}
    (run : src.line? { s with stack } l m event = .ok (some line)) :
    ∃ text, src.line? s l m event = .ok (some text) := by
  obtain ⟨hs, hidden, keyedFields⟩ := hideFields_ok p (areStringKeyed_fields keyed own m)
  rw [line?_eq (s := { s with stack }) fixed, hidden] at run
  obtain ⟨_, taken, run⟩ := bind_eq_ok.mp run
  obtain ⟨name, named, run⟩ := map_eq_ok.mp run
  rw [written] at run
  split at run
  · next counts => exact exists_line fixed keyed taken hidden keyedFields named counts
  · cases run

/-- Lines are independent of sensitive values, whatever calls are under way, just where no context
variable is exposed, the call is refused, or no line is written and no logger named by a variable.
Those that are bound or given to the call never show. -/
theorem independent_iff (fixed : (l.attach s).attachment = .fixed p)
    (keyed : src.StringKeyed) (own : event.isStringKeyed = true) :
    ((∀ (stack : String) (other : Sources), other.StringKeyed → src.Alike p other →
        other.line? { s with stack } l m event = src.line? { s with stack } l m event) ↔
      ∀ n, src.Exposes p m event n → (l.attach s).checkValues m src.values ≠ .ok () ∨
        (n ≠ recordField ∧ ∀ line, src.line? s l m event ≠ .ok (some line))) ∧
    ∀ other : Sources, src.Alike p other → src.context = other.context →
      other.line? s l m event = src.line? s l m event := by
  refine ⟨⟨?_, ?_⟩, fun other alike same => line?_eq_of_context_eq fixed alike same m event⟩
  · intro independent n exposed
    by_cases taken : (l.attach s).checkValues m src.values = .ok ()
    · have replaced {k : String} (covered : p.covers k = true) (stack : String) {v : Value}
          (keyedValue : v.isStringKeyed = true) :
          (src.withVariable k v).line? { s with stack } l m event =
            src.line? { s with stack } l m event :=
        independent stack _ (stringKeyed_withVariable keyed k keyedValue)
          (alike_withVariable covered src v)
      have other : n ≠ recordField := by
        rintro rfl
        have same := (replaced exposed.covered s.stack (v := .null) rfl).trans
          (replaced exposed.covered s.stack (v := .int 0) rfl).symm
        exact exposed.record_shows fixed keyed own taken same
      refine Or.inr ⟨other, fun line run => ?_⟩
      obtain ⟨text, long⟩ := exists_longer line
      -- A variable that asks for the stack does not show itself, but by a stack that is long.
      by_cases asking : src.Surfaces p m event stackRequest
      · have quiet := (replaced asking.covered s.stack (v := .bool false) rfl).trans run
        exact asking.stack_shows fixed long quiet
          ((replaced asking.covered text rfl).trans (replaced asking.covered text rfl).symm)
      · exact exposed.text_shows fixed other asking long
          ((replaced exposed.covered s.stack rfl).trans run)
    · exact Or.inl taken
  · intro harmless stack other _ alike
    refine line?_eq_of_alike (s := { s with stack }) fixed keyed own alike fun n exposed => ?_
    refine (harmless n exposed).imp_right fun ⟨other, silent⟩ => ⟨other, fun line run => ?_⟩
    obtain ⟨text, line⟩ := exists_line_of_stack fixed keyed own run
    exact silent text line

def vault (password : String) : Sources := ⟨[("password", .text password)], [], []⟩

def verbose : State := State.initial.configure 10 .standard

def keeper : Logger := .make verbose "vault" []

def loginLine (src : Sources) : Except Fault (Option String) :=
  src.line? verbose keeper (.plain .info) (.text "login")

theorem stringKeyed_vault (password : String) : (vault password).StringKeyed where
  context := List.forall_mem_singleton.mpr rfl
  bound := fun _ member => absurd member List.not_mem_nil
  values := fun _ member => absurd member List.not_mem_nil

theorem covers_password : Policy.standard.covers "password" = true := by decide

theorem alike_vault (password other : String) :
    (vault password).Alike .standard (vault other) where
  context := .cons ⟨rfl, Or.inl covers_password⟩ .nil
  bound := .nil
  values := .nil

theorem vault_independent_iff :
    (keeper.attach verbose).attachment = .fixed .standard ∧
      (vault "hunter2").StringKeyed ∧ (Value.text "login").isStringKeyed = true ∧
      ((∀ (stack : String) (other : Sources), other.StringKeyed →
          (vault "hunter2").Alike .standard other →
          other.line? { verbose with stack } keeper (.plain .info) (.text "login") =
            (vault "hunter2").line? { verbose with stack } keeper (.plain .info) (.text "login")) ↔
        ∀ n, (vault "hunter2").Exposes .standard (.plain .info) (.text "login") n →
          (keeper.attach verbose).checkValues (.plain .info) (vault "hunter2").values ≠ .ok () ∨
            (n ≠ recordField ∧ ∀ line, loginLine (vault "hunter2") ≠ .ok (some line))) := by
  have fixed : (keeper.attach verbose).attachment = .fixed .standard :=
    Logger.attachment_make .initial 10 .standard "vault" []
  exact ⟨fixed, stringKeyed_vault "hunter2", rfl,
    (independent_iff fixed (stringKeyed_vault "hunter2") rfl).1⟩

/-- Two passwords in the context make two lines. -/
theorem vault_shows_password :
    (vault "hunter2").StringKeyed ∧ (vault "swordfish").StringKeyed ∧
      (vault "hunter2").Alike .standard (vault "swordfish") ∧
      loginLine (vault "hunter2") =
        .ok (some ("\x7b\"event\": \"login\", \"password\": \"hunter2\", " ++
          "\"logger\": \"vault\", \"level\": \"info\"\x7d")) ∧
      loginLine (vault "swordfish") =
        .ok (some ("\x7b\"event\": \"login\", \"password\": \"swordfish\", " ++
          "\"logger\": \"vault\", \"level\": \"info\"\x7d")) ∧
      loginLine (vault "hunter2") ≠ loginLine (vault "swordfish") := by
  have first : loginLine (vault "hunter2") =
      .ok (some ("\x7b\"event\": \"login\", \"password\": \"hunter2\", " ++
        "\"logger\": \"vault\", \"level\": \"info\"\x7d")) := rfl
  have second : loginLine (vault "swordfish") =
      .ok (some ("\x7b\"event\": \"login\", \"password\": \"swordfish\", " ++
        "\"logger\": \"vault\", \"level\": \"info\"\x7d")) := rfl
  refine ⟨stringKeyed_vault _, stringKeyed_vault _, alike_vault _ _, first, second, ?_⟩
  rw [first, second]
  intro equal
  exact absurd (Option.some.inj (Except.ok.inj equal)) (by decide)

end Sources

end DocSpace.Log
