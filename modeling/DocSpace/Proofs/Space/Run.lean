import DocSpace.Proofs.Http.Exchange
import DocSpace.Proofs.Space.Url
import DocSpace.Space.Basic

set_option autoImplicit false

namespace DocSpace

open Http Redaction

inductive PreparedTwins : Except Failure Request → Except Failure Request → Prop where
  | failed (f : Failure) : PreparedTwins (.error f) (.error f)
  | ready {q q' : Request} (twins : q.Twins q') : PreparedTwins (.ok q) (.ok q')

section Keys

variable {k k' : Value} (own : IsKey k.plain.toList) (own' : IsKey k'.plain.toList)

namespace Model

include own own'

theorem url_append_twins (m : Model) (id : Value) (clauses : String) :
    UrlTwins ((m.withKey k).url id ++ clauses) ((m.withKey k').url id ++ clauses) := by
  exact .keyed _ _ own own' (toList_url_append (m.withKey k) id clauses)
    (toList_url_append (m.withKey k') id clauses)

theorem url_twins (m : Model) (id : Value) :
    UrlTwins ((m.withKey k).url id) ((m.withKey k').url id) := by
  simpa only [String.append_empty] using m.url_append_twins own own' id ""

end Model

include own own'

/-- A call on two models that differ in the key prepares one request but for the key. -/
theorem Call.prepare_twins (c : Call) (m : Model) :
    PreparedTwins (c.prepare (m.withKey k)) (c.prepare (m.withKey k')) := by
  have listed (options : Option Query.ListOptions) :
      PreparedTwins (((m.withKey k).listUrl options).map fun u => ⟨.get, u, none⟩)
        (((m.withKey k').listUrl options).map fun u => ⟨.get, u, none⟩) := by
    have clauses (key : Value) : (m.withKey key).listClauses options = m.listClauses options := rfl
    simp only [Model.listUrl_eq_map, clauses]
    cases m.listClauses options with
    | error f => exact .failed f
    | ok tail => exact .ready ⟨rfl, rfl, m.url_append_twins own own' .null tail⟩
  cases c with
  | get id => exact .ready ⟨rfl, rfl, m.url_twins own own' id⟩
  | delete id => exact .ready ⟨rfl, rfl, m.url_twins own own' id⟩
  | getList options => exact listed options
  | getFirst options => exact listed (some (firstOptions options))
  | create document =>
      simp only [prepare]
      cases Document.fields document with
      | error f => exact .failed (.fault f)
      | ok fields => exact .ready ⟨rfl, rfl, m.url_twins own own' .null⟩
  | update document =>
      simp only [prepare]
      cases Document.fields document with
      | error f => exact .failed (.fault f)
      | ok fields =>
          have changed : PreparedTwins (liftM (prepareUpdate (m.withKey k) fields))
              (liftM (prepareUpdate (m.withKey k') fields)) := by
            simp only [prepareUpdate]
            cases fields.get? identifier with
            | none => exact .failed (.fault (.missingKey identifier))
            | some id => exact .ready ⟨rfl, rfl, m.url_twins own own' id⟩
          exact changed

theorem Call.perform_observed (c : Call) (m : Model) (session : Session) {outcome : Outcome}
    (taken : ∀ q, c.prepare (m.withKey k) = .ok q → Accepts q.url outcome)
    (taken' : ∀ q, c.prepare (m.withKey k') = .ok q → Accepts q.url outcome) :
    (c.perform session (m.withKey k) outcome).observation =
      (c.perform session (m.withKey k') outcome).observation := by
  have prepared := c.prepare_twins own own' m
  simp only [perform]
  generalize c.prepare (m.withKey k) = left at taken prepared
  generalize c.prepare (m.withKey k') = right at taken' prepared
  cases prepared with
  | failed f => rfl
  | @ready q q' twins =>
      have event : requestEvent q = requestEvent q' := by
        simp only [requestEvent, twins.method, twins.url.hideKey_eq]
      have exchanged := exchange_observed twins session (taken q rfl) (taken' q' rfl)
      simp only [event]
      exact Trace.observation_andThen (Trace.observation_logFirst exchanged _) _

end Keys

structure Step where
  model : Value
  type : Option DocumentType
  call : Call
  outcome : Outcome

namespace Space

def withKey (s : Space) (k : Value) : Space :=
  { s with settings := { s.settings with apiKey := k } }

def step (s : Space) (t : Step) : Space × Trace Reply :=
  match s.model t.model t.type with
  | .error f => (s, .silent s.session (.error (.fault f)))
  | .ok m => s.perform m t.call t.outcome

def run : Space → List Step → List (Trace Reply)
  | _, [] => []
  | s, t :: ts => (s.step t).2 :: run (s.step t).1 ts

def Accepts (s : Space) (t : Step) : Prop :=
  ∀ m q, s.model t.model t.type = .ok m → t.call.prepare m = .ok q → Http.Accepts q.url t.outcome

theorem model_withKey (s : Space) (k id : Value) (type : Option DocumentType) :
    (s.withKey k).model id type = (s.model id type).map (·.withKey k) := by
  simp only [model, Model.make, withKey]
  cases type.mapM Schema.ofType <;> rfl

theorem step_fst (s : Space) (t : Step) :
    (s.step t).1 = { s with session := (s.step t).2.session } := by
  rw [step]
  split <;> rfl

section Keys

variable {k k' : Value} (own : IsKey k.plain.toList) (own' : IsKey k'.plain.toList)

include own own'

theorem step_observed (s : Space) (t : Step) (taken : (s.withKey k).Accepts t)
    (taken' : (s.withKey k').Accepts t) :
    ((s.withKey k).step t).2.observation = ((s.withKey k').step t).2.observation := by
  simp only [Accepts, model_withKey] at taken taken'
  simp only [step, model_withKey]
  cases made : s.model t.model t.type with
  | error f => rfl
  | ok m =>
      rw [made] at taken taken'
      exact t.call.perform_observed own own' m s.session (fun q => taken _ q rfl)
        (fun q => taken' _ q rfl)

/-- Runs in two spaces that differ in the access key show the same, as far as both spaces' URLs are
accepted. -/
theorem run_hides_key (s : Space) (steps : List Step)
    (taken : ∀ t ∈ steps, (s.withKey k).Accepts t)
    (taken' : ∀ t ∈ steps, (s.withKey k').Accepts t) :
    ((s.withKey k).run steps).map Trace.observation =
      ((s.withKey k').run steps).map Trace.observation := by
  induction steps generalizing s with
  | nil => rfl
  | cons t ts ih =>
      rw [List.forall_mem_cons] at taken taken'
      have first := s.step_observed own own' t taken.1 taken'.1
      have sessions : ((s.withKey k).step t).2.session = ((s.withKey k').step t).2.session :=
        congrArg Observation.session first
      simp only [run, List.map_cons, first, step_fst, sessions]
      -- what the step leaves differs in the key only, and takes the URLs that `s` takes
      exact congrArg _
        (ih { s with session := ((s.withKey k').step t).2.session } taken.2 taken'.2)

end Keys

def demo : Space where
  settings := ⟨.text "demo", .null, defaultBaseUrl, .int 10, .text "INFO", .info⟩
  session := .unopened
  log := .initial

def visits : List Step :=
  [⟨.text "Task", none, .get (.text "7"), .response ⟨404, [], []⟩⟩,
    ⟨.text "Task", none, .getList none, .raised "ReadTimeout" "late"⟩]

theorem visits_accepted :
    ∀ key ∈ ["alpha", "beta"], ∀ t ∈ visits, (demo.withKey (.text key)).Accepts t := by
  have redirectless : (⟨404, [], []⟩ : Response).location?.isSome = false := by decide
  intro key known t visit
  simp only [visits, List.mem_cons, List.not_mem_nil, or_false] at known visit
  rcases known with rfl | rfl <;> rcases visit with rfl | rfl <;> intro m q made prepared <;>
    cases made <;> cases prepared <;> refine ⟨_, rfl, fun r response => ?_⟩ <;> cases response
  · exact ⟨by decide, fun found => absurd found (by rw [redirectless]; decide)⟩
  · exact ⟨by decide, fun found => absurd found (by rw [redirectless]; decide)⟩

theorem demo_run_hides_key :
    IsKey "alpha".toList ∧ IsKey "beta".toList ∧
      (∀ t ∈ visits, (demo.withKey (.text "alpha")).Accepts t) ∧
      (∀ t ∈ visits, (demo.withKey (.text "beta")).Accepts t) ∧
      ((demo.withKey (.text "alpha")).run visits).map (fun t => t.requests.map (·.url)) =
        [["https://lax.dokuflow.com/demo/Task/7?apiKey=alpha"],
          ["https://lax.dokuflow.com/demo/Task?apiKey=alpha"]] ∧
      ((demo.withKey (.text "alpha")).run visits).map Trace.observation =
        ((demo.withKey (.text "beta")).run visits).map Trace.observation := by
  have alpha : IsKey (Value.text "alpha").plain.toList := ⟨by decide, by decide⟩
  have beta : IsKey (Value.text "beta").plain.toList := ⟨by decide, by decide⟩
  have taken := visits_accepted "alpha" (by decide)
  have taken' := visits_accepted "beta" (by decide)
  exact ⟨alpha, beta, taken, taken', rfl, run_hides_key alpha beta demo visits taken taken'⟩

end Space

end DocSpace
