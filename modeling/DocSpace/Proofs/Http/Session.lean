import DocSpace.Http.Exchange
import DocSpace.Proofs.Success

set_option autoImplicit false

namespace DocSpace.Http

/-- Whether a request gets through: its address, its body and its host pass, and the session is not
closed. -/
def Request.reaches (session : Session) (q : Request) : Bool :=
  (q.check session >>= Address.checkHost).isOk

variable {session : Session}

/-- A request that gets through has its outcome, whichever that is. -/
theorem transmit_of_reaches {q : Request} (through : q.reaches session = true) :
    ∃ a, ∀ outcome, transmit session q outcome = (.opened, deliver a outcome) := by
  rw [Request.reaches] at through
  cases checked : q.check session with
  | error f =>
      rw [checked] at through
      cases through
  | ok a =>
      cases named : a.checkHost with
      | error f =>
          simp only [checked, bind, Except.bind, named] at through
          cases through
      | ok _ => exact ⟨a, fun outcome => by simp only [transmit, checked, named]⟩

/-- A request that does not get through is a fault, whatever its outcome would have been. -/
theorem transmit_of_not_reaches {q : Request} (kept : q.reaches session = false) :
    ∃ left f, (left = .opened ∨ left = session) ∧
      ∀ outcome, transmit session q outcome = (left, .fault f) := by
  rw [Request.reaches] at kept
  cases checked : q.check session with
  | error f => exact ⟨session, f, Or.inr rfl, fun outcome => by simp only [transmit, checked]⟩
  | ok a =>
      cases named : a.checkHost with
      | error f =>
          exact ⟨.opened, f, Or.inl rfl, fun outcome => by simp only [transmit, checked, named]⟩
      | ok _ =>
          simp only [checked, bind, Except.bind, named] at kept
          cases kept

/-- What has to hold for a response to come back as a success: its request gets through to an
absolute address, its headers are ASCII, its content can be read, and its status is a success. -/
structure Response.Arrives (r : Response) (session : Session) (q : Request)
    (content : List UInt8) : Prop where
  through : ∃ a, q.check session = .ok a ∧ a.checkHost = .ok () ∧ a.isAbsolute = true
  headers : r.checkHeaders = .ok ()
  read : ContentCoding.decodeAll r.codings r.content = .ok content
  success : isSuccess r.status = true

/-- Successes do not lead elsewhere. -/
theorem location?_of_isSuccess {r : Response} (success : isSuccess r.status = true) :
    r.location? = none := by
  have low : r.status ≤ 299 := by
    simp only [isSuccess, Bool.and_eq_true, decide_eq_true_eq] at success
    exact success.2
  have here : isRedirect r.status = false := by
    simp only [isRedirect, List.contains_cons, List.contains_nil, Bool.or_false,
      Bool.or_eq_false_iff, beq_eq_false_iff_ne]
    omega
  rw [Response.location?, here]
  rfl

theorem exchange_of_arrives {q : Request} {r : Response} {content : List UInt8}
    (arrives : r.Arrives session q content) :
    exchange session q (.response r) = ⟨.opened, [q], [], .ok { r with content }⟩ := by
  obtain ⟨a, checked, named, absolute⟩ := arrives.through
  have direct : ({ r with content } : Response).location? = none :=
    location?_of_isSuccess arrives.success
  have accepted : accept a { r with content } = .response { r with content } := by
    rw [accept, absolute, direct]
    simp only [Bool.not_true, Bool.false_eq_true, ↓reduceIte, Option.forM, arrives.success]
    rfl
  simp only [exchange, transmit, checked, named, deliver, arrives.headers, arrives.read, accepted,
    conclude]

end DocSpace.Http
