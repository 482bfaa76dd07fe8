import DocSpace.Proofs.Http.Session

set_option autoImplicit false

namespace DocSpace.Http

open Redaction

inductive Ending where
  | answered (r : Response)
  | timedOut (f : Fault)
  | rejected (status : Nat) (f : Fault)
  | failed (f : Fault)
  | passedOn (f : Fault)

namespace Delivery

def response? : Delivery → Option Response
  | response r | badStatus r _ => some r
  | raised _ _ | fault _ => none

/-- The error of HTTP that is raised on the way. A status outside the successes is raised as one. -/
def httpError? : Delivery → Option Fault
  | response _ | fault _ => none
  | badStatus _ text => some (.transport "HTTPStatusError" text)
  | raised label message => if label ∈ httpErrors then some (.transport label message) else none

def otherError? : Delivery → Option Fault
  | response _ | badStatus _ _ => none
  | raised label message => if label ∈ httpErrors then none else some (.transport label message)
  | fault f => some f

def CallsFor (d : Delivery) : Ending → Prop
  | .answered r => d.response? = some r ∧ 200 ≤ r.status ∧ r.status ≤ 299
  | .timedOut f => d.httpError? = some f ∧ f.label ∈ timeouts
  | .rejected status f => d.httpError? = some f ∧
      ∃ r, d.response? = some r ∧ r.status = status ∧ ¬(200 ≤ status ∧ status ≤ 299)
  | .failed f => d.httpError? = some f ∧ d.response? = none ∧ f.label ∉ timeouts
  | .passedOn f => d.otherError? = some f

/-- A response comes as one just if its status is among the successes. -/
def IsSorted : Delivery → Prop
  | response r => isSuccess r.status = true
  | badStatus r _ => isSuccess r.status = false
  | raised _ _ | fault _ => True

end Delivery

namespace Trace

/-- A failure that is reported: there is one warning in the log, and a report whose cause is the
error. The record of the report shows the cause. -/
structure Reports (t : Trace Response) (f : Fault) (r : Report) : Prop where
  result : t.result = .error (.caused r (.fault f))
  warned : ∃ e, t.events = [e] ∧ e.level = .warning
  recorded : ∃ es, (Failure.caused r (.fault f)).entries = .ok es ∧
    (.text "cause", .text (Failure.causeText f.label f.text)) ∈ es

/-- What an exchange with a given ending shows of its request. -/
def EndsIn (t : Trace Response) (q : Request) : Ending → Prop
  | .answered r => t.result = .ok r ∧ t.events = []
  | .timedOut f => ∃ r, t.Reports f r ∧ r.kind = .timeout
  | .rejected status f => ∃ r, t.Reports f r ∧
      r.kind = .externalService (.text (hideKey q.url)) (.int status) ∧
      r.detail = .dict [(.text "method", .text q.method.name), (.text "status_code", .int status)]
  | .failed f => ∃ r, t.Reports f r ∧
      r.kind = .externalService (.text (hideKey q.url)) .null ∧
      r.detail = .dict [(.text "method", .text q.method.name)] ∧
      r.message = .text (if hideKey f.text = "" then
        "External service '" ++ hideKey q.url ++ "' error" else hideKey f.text)
  | .passedOn f => t.result = .error (.fault f) ∧ t.events = []

end Trace

/-- What outcomes come back as, where the request gets through. A response keeps its status. -/
inductive Outcome.ComesAs : Outcome → Delivery → Prop where
  | success {r : Response} {content : List UInt8}
      (read : ContentCoding.decodeAll r.codings r.content = .ok content)
      (inside : 200 ≤ r.status ∧ r.status ≤ 299) :
      ComesAs (.response r) (.response { r with content })
  | status {r : Response} {content : List UInt8} {text : String}
      (read : ContentCoding.decodeAll r.codings r.content = .ok content)
      (outside : ¬(200 ≤ r.status ∧ r.status ≤ 299)) :
      ComesAs (.response r) (.badStatus { r with content } text)
  | unreadable {r : Response} {label message : String}
      (own : label = "DecodingError" ∨ label = "RemoteProtocolError") :
      ComesAs (.response r) (.raised label message)
  | refused {r : Response} {f : Fault} : ComesAs (.response r) (.fault f)
  | raised {label message : String} (made : checkError label = .ok ()) :
      ComesAs (.raised label message) (.raised label message)
  | unmade {label message : String} {f : Fault} (failed : checkError label = .error f) :
      ComesAs (.raised label message) (.fault f)
  | broken {f : Fault} (other : f.label ∉ httpErrors) : ComesAs (.broken f other) (.fault f)

theorem isSuccess_iff {status : Nat} : isSuccess status = true ↔ 200 ≤ status ∧ status ≤ 299 := by
  simp only [isSuccess, Bool.and_eq_true, decide_eq_true_eq]

section Sorting

variable {session : Session} {q : Request} {outcome : Outcome}

theorem isSorted_accept (a : Address) (r : Response) : (accept a r).IsSorted := by
  unfold accept
  split
  · trivial
  · split
    · trivial
    · trivial
    · split
      · next success => exact success
      · next other => exact Bool.eq_false_iff.mpr other

theorem isSorted_deliver (a : Address) (outcome : Outcome) : (deliver a outcome).IsSorted := by
  cases outcome with
  | broken f _ => trivial
  | raised label message =>
      simp only [deliver]
      split <;> trivial
  | response r =>
      simp only [deliver]
      split
      · trivial
      · trivial
      · exact isSorted_accept a _

theorem comesAs_accept {r : Response} {content : List UInt8} (a : Address)
    (read : ContentCoding.decodeAll r.codings r.content = .ok content) :
    Outcome.ComesAs (.response r) (accept a { r with content }) := by
  unfold accept
  split
  · exact .refused
  · split
    · exact .unreadable (Or.inr rfl)
    · exact .refused
    · split
      · next success => exact .success read (isSuccess_iff.mp success)
      · next other => exact .status read fun inside => other (isSuccess_iff.mpr inside)

theorem comesAs_deliver (a : Address) (outcome : Outcome) :
    outcome.ComesAs (deliver a outcome) := by
  cases outcome with
  | broken f other => exact .broken other
  | raised label message =>
      cases made : checkError label with
      | error f =>
          simp only [deliver, made]
          exact .unmade made
      | ok _ =>
          simp only [deliver, made]
          exact .raised made
  | response r =>
      cases ascii : r.checkHeaders with
      | error f =>
          simp only [deliver, ascii]
          exact .refused
      | ok _ =>
          cases read : ContentCoding.decodeAll r.codings r.content with
          | error f =>
              simp only [deliver, ascii, read]
              exact .unreadable (Or.inl rfl)
          | ok content =>
              simp only [deliver, ascii, read]
              exact comesAs_accept a read

theorem isSorted_transmit (session : Session) (q : Request) (outcome : Outcome) :
    (transmit session q outcome).2.IsSorted := by
  cases through : q.reaches session with
  | true =>
      obtain ⟨a, delivered⟩ := transmit_of_reaches through
      rw [delivered]
      exact isSorted_deliver a outcome
  | false =>
      obtain ⟨_, f, _, kept⟩ := transmit_of_not_reaches through
      rw [kept]
      trivial

end Sorting

section Endings

variable {d : Delivery} {e : Ending} {q : Request} {t : Trace Response}

/-- What a status is raised as is no timeout. -/
theorem statusError_not_timeout : "HTTPStatusError" ∉ timeouts := by decide

theorem httpErrors_of_timeouts {label : String} (late : label ∈ timeouts) : label ∈ httpErrors :=
  List.mem_append_left _ late

def Delivery.ending : Delivery → Ending
  | response r => .answered r
  | badStatus r text => .rejected r.status (.transport "HTTPStatusError" text)
  | raised label message =>
    if label ∈ timeouts then .timedOut (.transport label message)
    else if label ∈ httpErrors then .failed (.transport label message)
    else .passedOn (.transport label message)
  | fault f => .passedOn f

theorem Delivery.callsFor_badStatus_iff {r : Response} {text : String}
    (outside : ¬(200 ≤ r.status ∧ r.status ≤ 299)) :
    (badStatus r text).CallsFor e ↔ e = .rejected r.status (.transport "HTTPStatusError" text) := by
  cases e with
  | answered a =>
      simp only [CallsFor, response?, reduceCtorEq, iff_false, Option.some.injEq]
      rintro ⟨rfl, inside⟩
      exact outside inside
  | timedOut f =>
      simp only [CallsFor, httpError?, reduceCtorEq, iff_false, Option.some.injEq]
      rintro ⟨rfl, late⟩
      exact absurd late statusError_not_timeout
  | rejected status f =>
      simp only [CallsFor, response?, httpError?, Option.some.injEq, exists_eq_left',
        Ending.rejected.injEq]
      constructor
      · rintro ⟨rfl, rfl, _⟩
        exact ⟨rfl, rfl⟩
      · rintro ⟨rfl, rfl⟩
        exact ⟨rfl, rfl, outside⟩
  | _ => simp [CallsFor, response?, otherError?]

theorem Delivery.callsFor_raised_iff (label message : String) :
    (raised label message).CallsFor e ↔ e = (raised label message).ending := by
  simp only [ending]
  have named : (Fault.transport label message).label = label := rfl
  by_cases known : label ∈ httpErrors
  · by_cases late : label ∈ timeouts
    · rw [if_pos late]
      cases e <;> simp only [CallsFor, response?, httpError?, otherError?, known] <;> grind
    · rw [if_neg late, if_pos known]
      cases e <;> simp only [CallsFor, response?, httpError?, otherError?, known] <;> grind
  · have early : label ∉ timeouts := fun late => known (httpErrors_of_timeouts late)
    rw [if_neg early, if_neg known]
    cases e <;> simp [CallsFor, response?, httpError?, otherError?, known, eq_comm]

/-- A delivery calls for its own ending and for no other. -/
theorem Delivery.callsFor_iff (sorted : d.IsSorted) : d.CallsFor e ↔ e = d.ending := by
  cases d with
  | response r =>
      cases e with
      | answered a =>
          simp only [CallsFor, response?, ending, Option.some.injEq, Ending.answered.injEq]
          constructor
          · exact fun called => called.1.symm
          · rintro rfl
            exact ⟨rfl, isSuccess_iff.mp sorted⟩
      | _ => simp [CallsFor, response?, httpError?, otherError?, ending]
  | badStatus r text =>
      refine callsFor_badStatus_iff fun inside => ?_
      exact Bool.false_ne_true (sorted.symm.trans (isSuccess_iff.mpr inside))
  | raised label message => exact callsFor_raised_iff label message
  | fault f => cases e <;> simp [CallsFor, response?, httpError?, otherError?, ending, eq_comm]

/-- The ending that a result shows. -/
def endingOf? : Except Failure Response → Option Ending
  | .ok r => some (.answered r)
  | .error (.fault f) => some (.passedOn f)
  | .error (.caused r (.fault f)) =>
    match r.kind with
    | .timeout => some (.timedOut f)
    | .externalService _ (.int status) => some (.rejected status.toNat f)
    | .externalService _ .null => some (.failed f)
    | _ => none
  | .error _ => none

theorem Trace.EndsIn.endingOf? (own : t.EndsIn q e) : endingOf? t.result = some e := by
  cases e with
  | answered r => rw [own.1, Http.endingOf?]
  | passedOn f => rw [own.1, Http.endingOf?]
  | timedOut f =>
      obtain ⟨r, report, kind⟩ := own
      simp only [report.result, Http.endingOf?, kind]
  | rejected status f =>
      obtain ⟨r, report, kind, _⟩ := own
      simp only [report.result, Http.endingOf?, kind, Int.toNat_natCast]
  | failed f =>
      obtain ⟨r, report, kind, _⟩ := own
      simp only [report.result, Http.endingOf?, kind]

theorem Trace.reports_of_warning {f : Fault} {r : Report} {w : Log.Event}
    (result : t.result = .error (.caused r (.fault f))) (events : t.events = [w])
    (level : w.level = .warning) : t.Reports f r where
  result := result
  warned := ⟨w, events, level⟩
  recorded := by
    refine ⟨r.entries (some (Failure.causeText f.label f.text)), rfl, ?_⟩
    rw [Report.entries]
    exact List.mem_append_left _ (List.mem_append_right _ (List.mem_singleton.mpr rfl))

theorem serviceMessage_text (service message : String) :
    Report.serviceMessage (.text service) (.text message) =
      .text (if message = "" then "External service '" ++ service ++ "' error" else message) := by
  simp only [Report.serviceMessage, Value.orElse, Value.truthy, Value.plain, bne_iff_ne]
  by_cases empty : message = "" <;> simp [empty]

/-- What is concluded from a delivery is the ending that it calls for. -/
theorem conclude_endsIn (session : Session) (q : Request) (d : Delivery) :
    Trace.EndsIn ⟨session, [q], (conclude q d).1, (conclude q d).2⟩ q d.ending := by
  cases d with
  | response r => exact ⟨rfl, rfl⟩
  | fault f => exact ⟨rfl, rfl⟩
  | badStatus r text =>
      exact ⟨statusReport q r.status, Trace.reports_of_warning rfl rfl rfl, rfl, rfl⟩
  | raised label message =>
      by_cases late : label ∈ timeouts
      · simp only [conclude, Delivery.ending, List.contains_iff_mem, late, ↓reduceIte]
        exact ⟨timeoutReport q, Trace.reports_of_warning rfl rfl rfl, rfl⟩
      · by_cases known : label ∈ httpErrors
        · simp only [conclude, Delivery.ending, List.contains_iff_mem, late, known, ↓reduceIte]
          exact ⟨serviceReport q (hideKey message) none, Trace.reports_of_warning rfl rfl rfl, rfl,
            rfl, serviceMessage_text _ _⟩
        · simp only [conclude, Delivery.ending, List.contains_iff_mem, late, known, ↓reduceIte]
          exact ⟨rfl, rfl⟩

theorem Delivery.existsUnique_callsFor (sorted : d.IsSorted) : ∃! e, d.CallsFor e := by
  refine ⟨d.ending, (callsFor_iff sorted).mpr rfl, fun e called => ?_⟩
  exact (callsFor_iff sorted).mp called

/-- What is concluded from a delivery shows one ending only. -/
theorem conclude_endsIn_iff (session : Session) (q : Request) (sorted : d.IsSorted) :
    Trace.EndsIn ⟨session, [q], (conclude q d).1, (conclude q d).2⟩ q e ↔ d.CallsFor e := by
  have own := conclude_endsIn session q d
  rw [Delivery.callsFor_iff sorted]
  constructor
  · intro shown
    have same := shown.endingOf?.symm.trans own.endingOf?
    exact Option.some.inj same
  · rintro rfl
    exact own

/-- Every delivery has exactly one ending, and so has every exchange, which ends as what its outcome
comes back as calls for. -/
theorem exchange_ending (session : Session) (q : Request) (outcome : Outcome) :
    (∃! e, (transmit session q outcome).2.CallsFor e) ∧
      (∀ e, (exchange session q outcome).EndsIn q e ↔
        (transmit session q outcome).2.CallsFor e) ∧
      (∀ d : Delivery, d.IsSorted → (∃! e, d.CallsFor e) ∧
        ∀ e, Trace.EndsIn ⟨session, [q], (conclude q d).1, (conclude q d).2⟩ q e ↔ d.CallsFor e) ∧
      (q.reaches session = true → outcome.ComesAs (transmit session q outcome).2) ∧
      (q.reaches session = false → ∃ f, ∀ other, (transmit session q other).2 = .fault f) := by
  have sorted := isSorted_transmit session q outcome
  have ends (e : Ending) : (exchange session q outcome).EndsIn q e ↔
      (transmit session q outcome).2.CallsFor e :=
    conclude_endsIn_iff _ q sorted
  refine ⟨Delivery.existsUnique_callsFor sorted, ends, fun d sorted => ?_, fun through => ?_,
    fun kept => ?_⟩
  · exact ⟨Delivery.existsUnique_callsFor sorted, fun e => conclude_endsIn_iff session q sorted⟩
  · obtain ⟨a, delivered⟩ := transmit_of_reaches through
    rw [delivered]
    exact comesAs_deliver a outcome
  · obtain ⟨left, f, _, refused⟩ := transmit_of_not_reaches kept
    exact ⟨f, fun other => congrArg Prod.snd (refused other)⟩

def tasksRequest : Request := ⟨.get, "https://lax.dokuflow.com/acme/tasks?apiKey=k", none⟩

/-- A request that gets through and is answered too late. -/
theorem late_exchange_timedOut :
    tasksRequest.reaches .unopened = true ∧
      (exchange .unopened tasksRequest (.raised "ReadTimeout" "late")).EndsIn tasksRequest
        (.timedOut (.transport "ReadTimeout" "late")) := by
  obtain ⟨_, ends, _, comes, _⟩ :=
    exchange_ending .unopened tasksRequest (.raised "ReadTimeout" "late")
  have through : tasksRequest.reaches .unopened = true := by decide
  refine ⟨through, (ends _).mpr ?_⟩
  have back := comes through
  generalize (transmit .unopened tasksRequest (.raised "ReadTimeout" "late")).2 = d at back
  cases back with
  | raised made => exact ⟨rfl, by decide⟩
  | unmade failed => cases failed

end Endings

end DocSpace.Http
