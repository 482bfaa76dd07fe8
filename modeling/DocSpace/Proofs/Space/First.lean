import DocSpace.Proofs.Http.Session
import DocSpace.Proofs.Json.Kind
import DocSpace.Proofs.Query.Alone
import DocSpace.Proofs.Space.Prepare

set_option autoImplicit false

namespace DocSpace

open Http Query

/-- The first part of a document, or the class of the error where it has none. -/
inductive FirstIn : Value → Except String Value → Prop where
  | nothing : FirstIn (.list []) (.ok .null)
  | item (v : Value) (vs : List Value) : FirstIn (.list (v :: vs)) (.ok v)
  | character (c : Char) (cs : List Char) :
      FirstIn (.text (String.ofList (c :: cs))) (.ok (.text (String.ofList [c])))
  | noCharacter : FirstIn (.text "") (.error "IndexError")
  | dict (es : Entries) : FirstIn (.dict es) (.error "KeyError")
  | null : FirstIn .null (.error "TypeError")
  | bool (b : Bool) : FirstIn (.bool b) (.error "TypeError")
  | int (i : Int) : FirstIn (.int i) (.error "TypeError")
  | double (d : Double) : FirstIn (.double d) (.error "TypeError")

namespace Call

theorem firstIn_firstOf {p : Value} (document : Json.IsDocument p) :
    FirstIn p ((firstOf p).mapError Fault.label) := by
  cases document with
  | null => exact .null
  | bool b => exact .bool b
  | int i => exact .int i
  | double d => exact .double d
  | dict es => exact .dict es
  | list vs =>
      cases vs with
      | nil => exact .nothing
      | cons v vs => exact .item v vs
  | text s =>
      have whole : s = String.ofList s.toList := String.ofList_toList.symm
      cases chars : s.toList with
      | nil =>
          rw [chars] at whole
          simp only [firstOf, chars]
          rw [whole]
          exact .noCharacter
      | cons c cs =>
          rw [chars] at whole
          simp only [firstOf, chars]
          rw [whole]
          exact .character c cs

/-- What becomes of a list's result where the first document is asked for. -/
inductive ReadsFirst : Except Failure Reply → Except Failure Reply → Prop where
  | failed (f : Failure) : ReadsFirst (.error f) (.error f)
  | unreadable {r : Response} {f : Fault} (document : r.document = .error f) :
      ReadsFirst (.ok (.response r)) (.error (.fault f))
  | found {r : Response} {p v : Value} (document : r.document = .ok p) (first : FirstIn p (.ok v)) :
      ReadsFirst (.ok (.response r)) (.ok (.document v))
  | missing {r : Response} {p : Value} {f : Fault} (document : r.document = .ok p)
      (first : FirstIn p (.error f.label)) : ReadsFirst (.ok (.response r)) (.error (.fault f))

section Reply

variable (options : Option ListOptions) {r : Response}

theorem reply_of_unreadable {f : Fault} (unreadable : r.document = .error f) :
    (getFirst options).reply r = .error (.fault f) :=
  bind_eq_error.mpr (Or.inl (lift_eq_error.mpr ⟨f, unreadable, rfl⟩))

theorem reply_of_document {p : Value} (document : r.document = .ok p) :
    (getFirst options).reply r =
      (liftM (firstOf p) : Except Failure Value) >>= fun v => pure (.document v) := by
  simp only [reply, document]
  rfl

theorem readsFirst_reply (r : Response) :
    ReadsFirst (.ok (.response r)) ((getFirst options).reply r) := by
  cases read : r.document with
  | error f =>
      rw [reply_of_unreadable options read]
      exact .unreadable read
  | ok p =>
      have own := firstIn_firstOf (Json.isDocument_decodeBytes read)
      rw [reply_of_document options read]
      cases first : firstOf p with
      | ok v =>
          rw [first] at own
          exact .found read own
      | error f =>
          rw [first] at own
          exact .missing read own

/-- The reply shows the first part of the document, or the class of the error. -/
theorem label_reply {p : Value} (document : r.document = .ok p) :
    ((getFirst options).reply r).mapError Failure.label =
      ((firstOf p).mapError Fault.label).map .document := by
  rw [reply_of_document options document]
  cases firstOf p <;> rfl

end Reply

/-- Runs of a list and of its first document: they differ in nothing before the response is read. -/
structure OneOf (list first : Trace Reply) : Prop where
  session : first.session = list.session
  requests : first.requests = list.requests
  events : first.events = list.events
  result : ReadsFirst list.result first.result

/-- The first document is read from the list that its options stand for. -/
theorem oneOf_perform (session : Session) (m : Model) (options : Option ListOptions)
    (outcome : Outcome) :
    OneOf ((getList (some (firstOptions options))).perform session m outcome)
      ((getFirst options).perform session m outcome) := by
  have same : (getFirst options).prepare m =
      (getList (some (firstOptions options))).prepare m := rfl
  unfold perform
  rw [same]
  cases (getList (some (firstOptions options))).prepare m with
  | error f => exact ⟨rfl, rfl, rfl, .failed f⟩
  | ok q =>
      refine ⟨rfl, rfl, rfl, ?_⟩
      simp only [Trace.andThen, Trace.logFirst]
      cases (exchange session q outcome).result with
      | error f => exact .failed f
      | ok r => exact readsFirst_reply options r

end Call

namespace Query

/-- Parameters with a page of one document in the place of any other. -/
def onePage (parts : Slot → List Parameter) : Slot → List Parameter
  | .skip => []
  | .take => [("take", "1")]
  | slot => parts slot

variable {o : ListOptions}

theorem part_firstOptions {parts : Slot → List Parameter} (given : ∀ s, o.part s = .ok (parts s))
    (s : Slot) :
    (Call.firstOptions (some o)).part s = .ok (onePage parts s) := by
  cases s with
  | skip => rfl
  | take => rfl
  | filters => exact given .filters
  | select => exact given .select
  | relations => exact given .relations
  | preset => exact given .preset
  | sortBy => exact given .sortBy

/-- Clauses of a list and of its first document, both made from the parameters of the list. -/
def ListOptions.Paged (o : ListOptions) (list first : String) : Prop :=
  ∃ parts : Slot → List Parameter, (∀ s, o.part s = .ok (parts s)) ∧
    list = parametersText (Slot.all.flatMap parts) ∧
    first = parametersText (Slot.all.flatMap (onePage parts))

theorem queryString_alike (o : ListOptions) :
    Alike o.Paged (queryString o) (queryString (Call.firstOptions (some o))) := by
  rw [queryString_eq, queryString_eq]
  cases run : o.parameters with
  | ok ps =>
      obtain ⟨parts, given, rfl⟩ := parameters_eq_ok.mp run
      rw [parameters_eq_ok.mpr ⟨_, part_firstOptions given, rfl⟩]
      exact .ok ⟨parts, given, rfl, rfl⟩
  | error f =>
      -- Slots of the page never fail, and the others are the same, so the first to fail is too.
      have each (s : Slot) : Alike (fun _ _ => True) (o.part s)
          ((Call.firstOptions (some o)).part s) := by
        cases s with
        | skip | take => exact .ok trivial
        | _ => exact alike_of_eq (fun _ => trivial) _
      have runs : Alike (List.Forall₂ fun _ _ => True) (Slot.all.mapM o.part)
          (Slot.all.mapM (Call.firstOptions (some o)).part) := by
        refine alike_mapM (List.forall₂_same.mpr fun _ _ => rfl) ?_
        rintro s _ rfl
        exact each s
      have same := map_eq_error.mp run
      rw [same] at runs
      rw [ListOptions.parameters]
      generalize Slot.all.mapM (Call.firstOptions (some o)).part = others at runs
      cases runs with
      | error => exact .error f

end Query

namespace Model

theorem listClauses_alike (m : Model) (o : ListOptions) :
    Alike o.Paged (m.listClauses (some o))
      (m.listClauses (some (Call.firstOptions (some o)))) := by
  have compiled : Alike o.Paged (liftM (queryString o) : Except Failure String)
      (liftM (queryString (Call.firstOptions (some o)))) := by
    generalize run : queryString o = list
    generalize run' : queryString (Call.firstOptions (some o)) = first
    have runs := queryString_alike o
    rw [run, run'] at runs
    cases runs with
    | ok results => exact .ok results
    | error f => exact .error (Failure.fault f)
  cases known : m.schema with
  | none =>
      simp only [listClauses, known]
      exact compiled
  | some s =>
      simp only [listClauses, known]
      have checked :
          Alike (fun _ _ => True) (s.check o.toQueryOptions) (s.check o.toQueryOptions) :=
        alike_of_eq (fun _ => trivial) _
      exact checked.bind fun _ _ _ => compiled

def listRequest (m : Model) (parts : Slot → List Query.Parameter) : Request :=
  ⟨.get, m.collectionUrl ++ parametersText (Slot.all.flatMap parts), none⟩

/-- Requests for a list and for its first document: what the options give for every slot, and the
same with a page of one document. -/
def Paged (m : Model) (o : ListOptions) (list first : Request) : Prop :=
  ∃ parts : Slot → List Query.Parameter, (∀ s, o.part s = .ok (parts s)) ∧
    list = m.listRequest parts ∧ first = m.listRequest (onePage parts)

end Model

namespace Call

theorem prepare_getFirst_alike (m : Model) (o : ListOptions) :
    Alike (m.Paged o) ((getList (some o)).prepare m) ((getFirst (some o)).prepare m) := by
  have runs := m.listClauses_alike o
  simp only [prepare, Model.listUrl_eq_map]
  generalize m.listClauses (some o) = list at runs
  generalize m.listClauses (some (firstOptions (some o))) = first at runs
  cases runs with
  | ok paged =>
      obtain ⟨parts, given, rfl, rfl⟩ := paged
      exact .ok ⟨parts, given, rfl, rfl⟩
  | error f => exact .error f

theorem prepare_getList_none (m : Model) :
    (getList none).prepare m = (getList (some .empty)).prepare m := by
  have clauses : m.listClauses (some .empty) = .ok "" := by
    cases known : m.schema <;> simp only [Model.listClauses, known] <;> rfl
  simp only [prepare, Model.listUrl_eq_map, clauses, Model.listClauses_none]

/-- What a call for a first document does once it has its request `q`: it announces it, goes through
the exchange of it, and reads the response, or fails as the exchange does. -/
structure AsksFirst (q : Request) (exchanged : Trace Response) (t : Trace Reply) : Prop where
  session : t.session = exchanged.session
  requests : t.requests = [q]
  events : t.events = requestEvent q :: exchanged.events
  failed : ∀ f, exchanged.result = .error f → t.result = .error f
  unreadable : ∀ r f, exchanged.result = .ok r → r.document = .error f →
    t.result = .error (.fault f)
  read : ∀ r p, exchanged.result = .ok r → r.document = .ok p →
    ∃ first, FirstIn p first ∧ t.result.mapError Failure.label = first.map .document

theorem asksFirst_perform {m : Model} {options : Option ListOptions} {q : Request}
    (ready : (getFirst options).prepare m = .ok q) (session : Session) (outcome : Outcome) :
    AsksFirst q (exchange session q outcome) ((getFirst options).perform session m outcome) := by
  have run : (getFirst options).perform session m outcome =
      ((exchange session q outcome).logFirst (requestEvent q)).andThen
        (getFirst options).reply := by
    simp only [perform, ready]
  have result : ((getFirst options).perform session m outcome).result =
      (exchange session q outcome).result.bind (getFirst options).reply :=
    congrArg Trace.result run
  refine ⟨congrArg Trace.session run, congrArg Trace.requests run, congrArg Trace.events run,
    fun f failed => ?_, fun r f answered unread => ?_, fun r p answered document => ?_⟩
  · rw [result, failed]
    rfl
  · rw [result, answered]
    exact reply_of_unreadable options unread
  · refine ⟨_, firstIn_firstOf (Json.isDocument_decodeBytes document), ?_⟩
    rw [result, answered]
    exact label_reply options document

/-- Every model answers the first document of a list as it answers the list on a page of one
document, whatever page the options name, and reads it from the response. -/
theorem getFirst_reads_list_of_one (m : Model) (session : Session) (options : Option ListOptions)
    (outcome : Outcome) :
    (∃ one, ListOptions.ofQuery (some ((options.map (·.toQueryOptions)).getD .empty))
        (some ⟨.null, .int 1⟩) = .ok one ∧
      OneOf ((getList (some one)).perform session m outcome)
        ((getFirst options).perform session m outcome)) ∧
    Alike (m.Paged (options.getD .empty)) ((getList options).prepare m)
      ((getFirst options).prepare m) ∧
    (∀ page, (getFirst (options.map fun o => { o with pagination := page })).perform session m
      outcome = (getFirst options).perform session m outcome) ∧
    (∀ f, (getFirst options).prepare m = .error f →
      (getFirst options).perform session m outcome = .silent session (.error f)) ∧
    (∀ q, (getFirst options).prepare m = .ok q →
      AsksFirst q (exchange session q outcome)
        ((getFirst options).perform session m outcome)) ∧
    ∀ q r content, r.Arrives session q content →
      (exchange session q (.response r)).result = .ok { r with content } := by
  refine ⟨⟨_, rfl, oneOf_perform session m _ outcome⟩, ?_, fun page => ?_, fun f failed => ?_,
    fun q ready => asksFirst_perform ready session outcome, fun q r content arrives => ?_⟩
  · cases options with
    | none =>
        rw [prepare_getList_none]
        exact prepare_getFirst_alike m .empty
    | some o => exact prepare_getFirst_alike m o
  · cases options <;> rfl
  · simp only [perform, failed]
  · rw [exchange_of_arrives arrives]

def laterPage : ListOptions := QueryOptions.empty.withPagination (some ⟨.int 20, .int 50⟩)

def oneAndTwo : Response := ⟨200, [91, 49, 44, 50, 93], []⟩

def firstTask : Request := ⟨.get, "https://lax.dokuflow.com/acme/tasks?apiKey=k&take=1", none⟩

/-- The page is replaced, there is one request, and the first of two tasks comes back. -/
theorem acme_first_task :
    ((getFirst (some laterPage)).perform .unopened (acmeModel "k" "tasks")
      (.response oneAndTwo)).requests = [firstTask] ∧
      ((getFirst (some laterPage)).perform .unopened (acmeModel "k" "tasks")
        (.response oneAndTwo)).result.mapError Failure.label = .ok (.document (.int 1)) := by
  have ready : (getFirst (some laterPage)).prepare (acmeModel "k" "tasks") = .ok firstTask := rfl
  have arrives : oneAndTwo.Arrives .unopened firstTask oneAndTwo.content :=
    { through := ⟨_, rfl, rfl, rfl⟩, headers := rfl, read := rfl, success := rfl }
  have document : oneAndTwo.document = .ok (.list [.int 1, .int 2]) := rfl
  obtain ⟨_, _, _, _, asks, comes⟩ := getFirst_reads_list_of_one (acmeModel "k" "tasks") .unopened
    (some laterPage) (.response oneAndTwo)
  have asked := asks firstTask ready
  obtain ⟨first, own, result⟩ := asked.read _ _ (comes firstTask _ _ arrives) document
  cases own
  exact ⟨asked.requests, result⟩

end Call

end DocSpace
