import DocSpace.Proofs.Failure.Readable

set_option autoImplicit false

namespace DocSpace

open Json

namespace Json

theorem clashes_ofNamed {fs : Named Value} {k : Value} :
    Clashes (.dict (Entries.ofNamed fs)) k ↔ ∃ f ∈ fs, Clashes f.2 k := by
  rw [clashes_dict]
  constructor
  · rintro ⟨_, member, clash⟩
    obtain ⟨f, given, rfl⟩ := List.mem_map.mp member
    rcases clash with ⟨rfl, odd⟩ | inside
    · cases odd
    · exact ⟨f, given, inside⟩
  · rintro ⟨f, given, inside⟩
    exact ⟨(.text f.1, f.2), List.mem_map_of_mem given, .inr inside⟩

theorem not_clashes_of_asText? {v : Value} (text : v.asText?.isSome = true) (k : Value) :
    ¬Clashes v k := by
  refine not_clashes (fun es inside => ?_) k
  cases inside <;> cases text

end Json

namespace Report

variable {r : Report} {k : Value}

/-- Message and code are texts. -/
structure IsTold (r : Report) : Prop where
  message : r.message.asText?.isSome = true
  code : r.code.asText?.isSome = true

/-- What a report holds beside texts: its details, and the errors of a validation. -/
def contents (r : Report) : List Value :=
  r.detail :: match r.kind with
    | .validation errors => [errors]
    | _ => []

/-- The key has no text, and a dictionary somewhere in the details or the errors has it. -/
def Clashes (r : Report) (k : Value) : Prop := ∃ v ∈ r.contents, Json.Clashes v k

theorem clashes_entries (told : r.IsTold) (cause : Option String) :
    Json.Clashes (.dict (r.entries cause)) k ↔ r.Clashes k := by
  rw [entries_eq_ofNamed, clashes_ofNamed]
  constructor
  · rintro ⟨f, member, clash⟩
    simp only [named, List.mem_append, List.mem_cons, List.not_mem_nil, or_false,
      Option.mem_toList] at member
    rcases member with ((rfl | rfl | rfl) | shown) | kind
    · exact absurd clash (not_clashes_of_asText? told.code k)
    · exact absurd clash (not_clashes_of_asText? told.message k)
    · exact ⟨r.detail, List.mem_cons_self, clash⟩
    · obtain ⟨c, _, rfl⟩ := Option.map_eq_some_iff.mp shown
      exact absurd clash (not_clashes_of_asText? rfl k)
    · refine ⟨f.2, List.mem_cons_of_mem _ ?_, clash⟩
      cases same : r.kind with
      | validation errors =>
          rw [same] at kind
          obtain rfl := List.mem_singleton.mp kind
          exact List.mem_cons_self
      | _ =>
          rw [same] at kind
          cases kind
  · rintro ⟨v, member, clash⟩
    rcases List.mem_cons.mp member with rfl | kind
    · exact ⟨("detail", r.detail), by simp [named], clash⟩
    · refine ⟨("errors", v), List.mem_append_right _ ?_, clash⟩
      cases same : r.kind with
      | validation errors =>
          rw [same] at kind
          obtain rfl := List.mem_singleton.mp kind
          exact List.mem_cons_self
      | _ =>
          rw [same] at kind
          cases kind

end Report

namespace Failure

/-- The reports of a chain of causes, the topmost first. -/
def reports : Failure → List Report
  | fault _ => []
  | report r => [r]
  | caused r cause => r :: cause.reports

theorem text_ends (e : Failure) (told : ∀ r ∈ e.reports, r.IsTold) :
    Ends (fun k => ∃ r ∈ e.reports, r.Clashes k) e.text := by
  have own (r : Report) (known : r.IsTold) (cause : Option String) :
      Ends r.Clashes (encode reportStyle (.dict (r.entries cause))) :=
    (encode_ends isLenient_reportStyle _).congr fun k => Report.clashes_entries known cause
  induction e with
  | fault f => exact .written fun k ⟨r, member, _⟩ => absurd member List.not_mem_nil
  | report r =>
      refine (own r (told r List.mem_cons_self) none).congr fun k => ?_
      simp only [reports, List.mem_singleton, exists_eq_left]
  | caused r cause ih =>
      obtain ⟨known, below⟩ := List.forall_mem_cons.mp told
      refine ((ih below).bind fun t => own r known _).congr fun k => ?_
      rw [reports, List.exists_mem_cons_iff, or_comm]

/-- A report whose messages are texts, all the way down, has a text unless a dictionary in it or
below it has a key that is no name, number, truth value or `null`; with such a key it has none. -/
theorem text_fails_iff_clashes {e : Failure} (told : ∀ r ∈ e.reports, r.IsTold) :
    ((∃ f, e.text = .error f ∧ f.label = "TypeError") ↔ ∃ r ∈ e.reports, ∃ k, r.Clashes k) ∧
      ((¬∃ r ∈ e.reports, ∃ k, r.Clashes k) → ∃ s, e.text = .ok s) ∧
      ∀ f, e.text = .error f → ∃ r ∈ e.reports, ∃ k, r.Clashes k ∧
        f = .keyNotEncodable k.qualifiedTypeName := by
  have ends := e.text_ends told
  have blamed (f : Fault) (fails : e.text = .error f) : ∃ r ∈ e.reports, ∃ k, r.Clashes k ∧
      f = .keyNotEncodable k.qualifiedTypeName := by
    obtain ⟨k, ⟨r, member, clash⟩, same⟩ := ends.exists_of_error fails
    exact ⟨r, member, k, clash, same⟩
  have returns : (∃ s, e.text = .ok s) ↔ ¬∃ r ∈ e.reports, ∃ k, r.Clashes k := by
    rw [ends.exists_ok_iff]
    exact ⟨fun free ⟨r, member, k, clash⟩ => free k ⟨r, member, clash⟩,
      fun free k ⟨r, member, clash⟩ => free ⟨r, member, k, clash⟩⟩
  refine ⟨⟨?_, fun clash => ?_⟩, returns.mpr, blamed⟩
  · rintro ⟨f, fails, _⟩
    obtain ⟨r, member, k, clash, _⟩ := blamed f fails
    exact ⟨r, member, k, clash⟩
  · cases shown : e.text with
    | ok s => exact absurd clash (returns.mp ⟨s, shown⟩)
    | error f =>
        obtain ⟨_, _, k, _, rfl⟩ := blamed f shown
        exact ⟨_, rfl, rfl⟩

/-- Windows that overlap, by a key of their own, in a tuple in a list. -/
def windows (key : Value) : Report where
  kind := .validation (.list [.null, .tuple [.dict [(key, .bytes [0])]]])
  message := .text "windows overlap"
  code := .textMember "Code" "OVERLAP" "overlap"
  detail := .list []

/-- A number as a key, and a record, in which keys do not count. -/
def unanswered : Report where
  kind := .timeout
  message := .text "no answer"
  code := .text "timeout"
  detail := .dict [(.double .notANumber, .record "Room" [("size", .dict [(.bytes [7], .null)])])]

def booking (key : Value) : Failure := .caused unanswered (.report (windows key))

theorem isTold_booking (key : Value) : ∀ r ∈ (booking key).reports, r.IsTold :=
  List.forall_mem_cons.mpr ⟨⟨rfl, rfl⟩, List.forall_mem_singleton.mpr ⟨rfl, rfl⟩⟩

theorem windows_clashes_iff (key k : Value) :
    (windows key).Clashes k ↔ key = k ∧ isKey k = false := by
  have bytes : ¬Clashes (.bytes [0]) k := not_clashes (by rintro es ⟨⟩) k
  have null : ¬Clashes .null k := not_clashes (by rintro es ⟨⟩) k
  simp [Report.Clashes, Report.contents, windows, clashes_list, clashes_tuple, clashes_dict, bytes,
    null]

theorem not_clashes_unanswered (k : Value) : ¬unanswered.Clashes k := by
  rintro ⟨v, member, clash⟩
  obtain rfl := List.mem_singleton.mp member
  obtain ⟨e, entry, own | inside⟩ := clashes_dict.mp clash
  · obtain rfl := List.mem_singleton.mp entry
    obtain ⟨rfl, odd⟩ := own
    cases odd
  · obtain rfl := List.mem_singleton.mp entry
    exact not_clashes (by rintro es ⟨⟩) k inside

/-- A pair leaves the whole chain without a text, a truth value does not. -/
theorem booking_text_fails_iff_clashes :
    (∀ r ∈ (booking (.tuple [.int 1, .int 2])).reports, r.IsTold) ∧
      (windows (.tuple [.int 1, .int 2])).Clashes (.tuple [.int 1, .int 2]) ∧
      (∃ f, (booking (.tuple [.int 1, .int 2])).text = .error f ∧ f.label = "TypeError") ∧
      (∀ r ∈ (booking (.bool true)).reports, r.IsTold) ∧
      ∃ s, (booking (.bool true)).text = .ok s := by
  have clash : (windows (.tuple [.int 1, .int 2])).Clashes (.tuple [.int 1, .int 2]) :=
    (windows_clashes_iff _ _).mpr ⟨rfl, rfl⟩
  have member (key : Value) : windows key ∈ (booking key).reports :=
    List.mem_cons_of_mem _ List.mem_cons_self
  have free : ¬∃ r ∈ (booking (.bool true)).reports, ∃ k, r.Clashes k := by
    rintro ⟨r, given, k, found⟩
    simp only [booking, reports, List.mem_cons, List.not_mem_nil, or_false] at given
    rcases given with rfl | rfl
    · exact not_clashes_unanswered k found
    · obtain ⟨rfl, odd⟩ := (windows_clashes_iff _ _).mp found
      cases odd
  exact ⟨isTold_booking _, clash,
    (text_fails_iff_clashes (isTold_booking _)).1.mpr ⟨_, member _, _, clash⟩, isTold_booking _,
    (text_fails_iff_clashes (isTold_booking _)).2.1 free⟩

end Failure

end DocSpace
