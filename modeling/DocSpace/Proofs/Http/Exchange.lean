import DocSpace.Http.Exchange
import DocSpace.Proofs.Failure
import DocSpace.Proofs.Http.Address
import DocSpace.Proofs.Text.Pieces

set_option autoImplicit false

namespace DocSpace

namespace Http

open Redaction

/-- What can be seen of a call but for the URLs of its requests. -/
structure Observation (α : Type) where
  session : Session
  requests : List (Method × Option Value)
  events : List Log.Event
  result : Except Failure.View α

namespace Trace

variable {α β : Type} {t u : Trace α}

def observation (t : Trace α) : Observation α where
  session := t.session
  requests := t.requests.map fun q => (q.method, q.body)
  events := t.events
  result := t.result.mapError Failure.view

theorem observation_andThen (same : t.observation = u.observation) (f : α → Except Failure β) :
    (t.andThen f).observation = (u.andThen f).observation := by
  obtain ⟨session, requests, events, result⟩ := t
  obtain ⟨session', requests', events', result'⟩ := u
  simp only [observation, Observation.mk.injEq] at same
  obtain ⟨rfl, requests, rfl, results⟩ := same
  simp only [observation, andThen, requests, Observation.mk.injEq, true_and]
  cases result with
  | error e =>
      cases result' with
      | error e' =>
          exact congrArg Except.error (Except.error.inj results)
      | ok a => cases results
  | ok a =>
      cases result' with
      | error e => cases results
      | ok a' => rw [Except.ok.inj results]

theorem observation_logFirst (same : t.observation = u.observation) (event : Log.Event) :
    (t.logFirst event).observation = (u.logFirst event).observation := by
  simp only [observation, Observation.mk.injEq] at same
  obtain ⟨sessions, requests, events, results⟩ := same
  simp only [observation, logFirst, sessions, requests, events, results]

end Trace

/-- The same but for the address that the text of a bad status quotes. -/
inductive Delivery.Twins : Delivery → Delivery → Prop where
  | same (d : Delivery) : Delivery.Twins d d
  | badStatus (r : Response) {text text' : String}
      (twins : Redaction.Twins text.toList text'.toList) :
      Delivery.Twins (.badStatus r text) (.badStatus r text')

theorem statusText_twins (r : Response) {a b : Address} (twins : a.Twins b) :
    Redaction.Twins (r.statusText a).toList (r.statusText b).toList := by
  have single : "\n".toList = ['\n'] := by decide
  simp only [Response.statusText, List.cons_append, Text.toList_joined_cons single,
    String.toList_append]
  exact ((twins.text.append_left _).append_right _).append_right _

theorem accept_twins {a b : Address} (twins : a.Twins b) (r : Response)
    (absolute : a.isAbsolute = true)
    (clean : r.location?.isSome → a.HasCleanFragment ∧ b.HasCleanFragment) :
    (accept a r).Twins (accept b r) := by
  have redirect : r.location?.forM (checkRedirect a) = r.location?.forM (checkRedirect b) := by
    cases target : r.location? with
    | none => rw [Option.forM, Option.forM]
    | some location =>
        obtain ⟨own, other⟩ := clean (by rw [target]; rfl)
        rw [Option.forM, Option.forM, twins.checkRedirect_eq own other location]
  simp only [accept, ← twins.isAbsolute_eq, absolute, Bool.not_true, Bool.false_eq_true,
    ↓reduceIte, redirect]
  cases r.location?.forM (checkRedirect b) with
  | error fault =>
      cases fault with
      | unreadable message => exact .same _
      | fault f => exact .same _
  | ok _ =>
      cases isSuccess r.status with
      | true => exact .same _
      | false => exact .badStatus r (statusText_twins r twins)

/-- A URL that is accepted on the way to its outcome: it names an address and, where a response
comes back, an absolute one whose fragment a redirect can take over. -/
def Accepts (url : String) (outcome : Outcome) : Prop :=
  ∃ a, Address.ofRequest url = .ok a ∧
    ∀ r, outcome = .response r →
      a.isAbsolute = true ∧ (r.location?.isSome → a.HasCleanFragment)

theorem deliver_twins {a b : Address} (twins : a.Twins b) (outcome : Outcome)
    (own : ∀ r, outcome = .response r →
      a.isAbsolute = true ∧ (r.location?.isSome → a.HasCleanFragment))
    (other : ∀ r, outcome = .response r →
      b.isAbsolute = true ∧ (r.location?.isSome → b.HasCleanFragment)) :
    (deliver a outcome).Twins (deliver b outcome) := by
  cases outcome with
  | raised label message => exact .same _
  | broken f _ => exact .same _
  | response r =>
      obtain ⟨absolute, clean⟩ := own r rfl
      have clean' := (other r rfl).2
      simp only [deliver]
      cases r.checkHeaders with
      | error f => exact .same _
      | ok _ =>
          cases ContentCoding.decodeAll r.codings r.content with
          | error f => exact .same _
          | ok content =>
              exact accept_twins twins _ absolute fun found => ⟨clean found, clean' found⟩

structure Request.Twins (q q' : Request) : Prop where
  method : q.method = q'.method
  body : q.body = q'.body
  url : UrlTwins q.url q'.url

theorem transmit_twins {q q' : Request} (twins : q.Twins q') (session : Session)
    {outcome : Outcome} (own : Accepts q.url outcome) (other : Accepts q'.url outcome) :
    (transmit session q outcome).1 = (transmit session q' outcome).1 ∧
      (transmit session q outcome).2.Twins (transmit session q' outcome).2 := by
  obtain ⟨a, read, taken⟩ := own
  obtain ⟨b, read', taken'⟩ := other
  have addresses := twins.url.address read read'
  simp only [transmit, Request.check, read, read', twins.body, bind, Except.bind]
  cases checkBody q'.body with
  | error f => exact ⟨rfl, .same _⟩
  | ok _ =>
      by_cases shut : session = .closed
      · simp only [shut, ↓reduceIte]
        exact ⟨rfl, .same _⟩
      · simp only [shut, ↓reduceIte, pure, Except.pure, addresses.checkHost_eq]
        cases b.checkHost with
        | error f => exact ⟨rfl, .same _⟩
        | ok _ => exact ⟨rfl, deliver_twins addresses outcome taken taken'⟩

/-- Warnings and reports show the method of a request and its URL with the key hidden. -/
theorem conclude_eq_of_twins {q q' : Request} (twins : q.Twins q') (d : Delivery) :
    conclude q d = conclude q' d := by
  cases d <;>
    simp only [conclude, warning, timeoutReport, statusReport, serviceReport, twins.method,
      twins.url.hideKey_eq]

theorem conclude_observed {d d' : Delivery} (twins : d.Twins d') (q : Request) :
    (conclude q d).1 = (conclude q d').1 ∧
      (conclude q d).2.mapError Failure.view = (conclude q d').2.mapError Failure.view := by
  cases twins with
  | same => exact ⟨rfl, rfl⟩
  | badStatus r twins =>
      refine ⟨rfl, congrArg Except.error (Failure.view_caused_eq _ ?_)⟩
      apply hideKey_eq_of_twins
      simp only [String.toList_append]
      exact twins.append_left _

theorem exchange_observed {q q' : Request} (twins : q.Twins q') (session : Session)
    {outcome : Outcome} (own : Accepts q.url outcome) (other : Accepts q'.url outcome) :
    (exchange session q outcome).observation = (exchange session q' outcome).observation := by
  obtain ⟨sessions, deliveries⟩ := transmit_twins twins session own other
  obtain ⟨events, results⟩ := conclude_observed deliveries q'
  simp only [exchange, Trace.observation, conclude_eq_of_twins twins, sessions, events, results,
    twins.method, twins.body, List.map_cons, List.map_nil]

end Http

end DocSpace
