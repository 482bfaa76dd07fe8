import DocSpace.Proofs.Failure.Chain
import DocSpace.Proofs.Json.Decode
import DocSpace.Proofs.Json.Printed

set_option autoImplicit false

namespace DocSpace

open Json

namespace Json

theorem isSeparating_reportStyle : reportStyle.IsSeparating := by
  constructor <;> exact ⟨[' '], rfl, List.forall_mem_singleton.mpr rfl⟩

theorem isPrinting_reportStyle : reportStyle.IsPrinting := by
  constructor <;> decide

theorem exists_encode_reportStyle {v : Value} (json : IsJson v) :
    ∃ s, encode reportStyle v = .ok s ∧ ArePrinted s.toList ∧ decode s = .ok v := by
  obtain ⟨s, run, read⟩ :=
    exists_encode_decode isLenient_reportStyle isSeparating_reportStyle json
  exact ⟨s, run, arePrinted_encode isPrinting_reportStyle v run, read⟩

end Json

namespace Report

/-- Message and code are texts, and JSON has a form for everything else. -/
structure IsReadable (r : Report) : Prop where
  message : ∃ s, r.message = .text s
  code : ∃ s, r.code = .text s
  detail : IsJson r.detail
  errors : ∀ errors, r.kind = .validation errors → IsJson errors

def named (r : Report) (cause : Option String) : Named Value :=
  [("code", r.code), ("message", r.message), ("detail", r.detail)] ++
    (cause.map fun c => ("cause", Value.text c)).toList ++
    match r.kind with
    | .validation errors => [("errors", errors)]
    | _ => []

variable {r : Report}

theorem entries_eq_ofNamed (r : Report) (cause : Option String) :
    r.entries cause = Entries.ofNamed (r.named cause) := by
  unfold entries named
  cases r.kind <;> cases cause <;> rfl

theorem nodup_named (r : Report) (cause : Option String) : (r.named cause).names.Nodup := by
  unfold named
  cases r.kind <;> cases cause <;> simp [Named.names]

theorem isJson_of_mem_named (own : r.IsReadable) (cause : Option String) :
    ∀ e ∈ r.named cause, IsJson e.2 := by
  obtain ⟨⟨message, text⟩, ⟨code, slug⟩, detail, errors⟩ := own
  intro e member
  simp only [named, List.mem_append, List.mem_cons, List.not_mem_nil, or_false,
    Option.mem_toList] at member
  rcases member with ((rfl | rfl | rfl) | shown) | kind
  · exact slug ▸ .text code
  · exact text ▸ .text message
  · exact detail
  · obtain ⟨c, _, rfl⟩ := Option.map_eq_some_iff.mp shown
    exact .text c
  · split at kind
    · next found same =>
        obtain rfl := List.mem_singleton.mp kind
        exact errors found same
    · exact absurd kind List.not_mem_nil

theorem isJson_entries (own : r.IsReadable) (cause : Option String) :
    IsJson (.dict (r.entries cause)) := by
  rw [entries_eq_ofNamed]
  exact .dict (r.nodup_named cause) (isJson_of_mem_named own cause)

def raised (r : Report) : Option Failure → Failure
  | none => .report r
  | some cause => .caused r cause

end Report

namespace Failure

/-- The text is a document without control characters, and is read as the record. -/
def ReadsBack (e : Failure) : Prop :=
  ∃ s es, e.text = .ok s ∧ e.entries = .ok es ∧ (∀ c ∈ s.toList, 0x20 ≤ c.toNat) ∧
    decode s = .ok (.dict es)

/-- Faults, and reports whose values JSON has a form for, all the way down. -/
inductive IsReadable : Failure → Prop where
  | fault (f : Fault) : IsReadable (.fault f)
  | report {r : Report} (own : r.IsReadable) : IsReadable (.report r)
  | caused {r : Report} {cause : Failure} (own : r.IsReadable) (below : IsReadable cause) :
      IsReadable (.caused r cause)

variable {r : Report} {cause : Failure}

theorem readsBack_report (own : r.IsReadable) : (report r).ReadsBack := by
  obtain ⟨s, run, printed, read⟩ := exists_encode_reportStyle (r.isJson_entries own none)
  exact ⟨s, _, run, rfl, printed, read⟩

theorem readsBack_caused (own : r.IsReadable) {t : String} (shown : cause.asCause = .ok t) :
    (caused r cause).ReadsBack := by
  obtain ⟨s, run, printed, read⟩ := exists_encode_reportStyle (r.isJson_entries own (some t))
  refine ⟨s, r.entries (some t), ?_, ?_, printed, read⟩
  · rw [text_caused, shown]
    exact run
  · rw [entries_caused, shown]
    rfl

theorem caused_fails {f : Fault} (fails : cause.text = .error f) :
    (caused r cause).text = .error f ∧ (caused r cause).entries = .error f := by
  have hidden : cause.asCause = .error f := map_eq_error.mpr fails
  rw [text_caused, entries_caused, hidden]
  exact ⟨rfl, rfl⟩

theorem IsReadable.exists_text {e : Failure} (readable : e.IsReadable) : ∃ t, e.text = .ok t := by
  induction readable with
  | fault f => exact ⟨_, rfl⟩
  | report own =>
      obtain ⟨s, _, shown, _⟩ := readsBack_report own
      exact ⟨s, shown⟩
  | @caused r cause own _ below =>
      obtain ⟨t, shown⟩ := below
      obtain ⟨s, _, text, _⟩ := readsBack_caused own (map_eq_ok.mpr ⟨t, shown, rfl⟩)
      exact ⟨s, text⟩

end Failure

namespace Report

variable {r : Report}

/-- A report whose values JSON has a form for is read back from its text just if what it was raised
from has a text, which faults and reports of the same kind have. Otherwise neither its text nor its
record exists, for the same reason. -/
theorem raised_readsBack_iff (own : r.IsReadable) (cause : Option Failure) :
    ((r.raised cause).ReadsBack ↔ ∀ e ∈ cause, ∃ t, e.text = .ok t) ∧
      ((∀ e ∈ cause, e.IsReadable) → (r.raised cause).ReadsBack) ∧
      ∀ e ∈ cause, ∀ f, e.text = .error f →
        (r.raised cause).text = .error f ∧ (r.raised cause).entries = .error f := by
  cases cause with
  | none =>
      have whole := Failure.readsBack_report own
      exact ⟨iff_of_true whole nofun, fun _ => whole, nofun⟩
  | some cause =>
      have whole {t : String} (shown : cause.text = .ok t) : (r.raised (some cause)).ReadsBack :=
        Failure.readsBack_caused own (map_eq_ok.mpr ⟨t, shown, rfl⟩)
      simp only [Option.mem_def, Option.some.injEq, forall_eq']
      refine ⟨⟨?_, fun ⟨t, shown⟩ => whole shown⟩, fun readable => ?_, fun f fails => ?_⟩
      · rintro ⟨s, _, run, _⟩
        cases shown : cause.text with
        | ok t => exact ⟨t, rfl⟩
        | error f =>
            have blocked := (Failure.caused_fails (r := r) shown).1
            exact absurd (blocked.symm.trans run) nofun
      · obtain ⟨t, shown⟩ := readable.exists_text
        exact whole shown
      · exact Failure.caused_fails fails

/-- A refused booking, told with a quote and a line break. -/
def overlap : Report where
  kind := .validation (.list [.dict [(.text "field", .text "room")]])
  message := .text "\"room 7\"\nis taken"
  code := .text "overlap"
  detail := .dict [(.text "rooms", .list [.int 7, .null, .bool true])]

theorem isReadable_overlap : overlap.IsReadable where
  message := ⟨_, rfl⟩
  code := ⟨_, rfl⟩
  detail := by
    have rooms : IsJson (.list [.int 7, .null, .bool true]) := by
      refine .list (List.forall_mem_cons.mpr ⟨.int (by decide), ?_⟩)
      exact List.forall_mem_cons.mpr ⟨.null, List.forall_mem_singleton.mpr (.bool true)⟩
    have record : IsJson (.dict (Entries.ofNamed [("rooms", .list [.int 7, .null, .bool true])])) :=
      .dict (by decide) (List.forall_mem_singleton.mpr rooms)
    exact record
  errors := by
    rintro errors ⟨⟩
    have record : IsJson (.dict (Entries.ofNamed [("field", .text "room")])) :=
      .dict (by decide) (List.forall_mem_singleton.mpr (.text "room"))
    exact .list (List.forall_mem_singleton.mpr record)

theorem overlap_readsBack :
    overlap.IsReadable ∧
      (overlap.raised (some (.fault (.raised "OSError" [.text "?apiKey=k"])))).ReadsBack := by
  have shown : ∀ e ∈ some (Failure.fault (.raised "OSError" [.text "?apiKey=k"])),
      ∃ t, e.text = .ok t := by
    rintro e ⟨⟩
    exact ⟨_, rfl⟩
  exact ⟨isReadable_overlap, (raised_readsBack_iff isReadable_overlap _).1.mpr shown⟩

/-- A pair cannot be the name of a member, so this report has no text. -/
def clash : Report where
  kind := .validation (.list [])
  message := .text "windows overlap"
  code := .text "validation_error"
  detail := .dict [(.text "windows", .dict [(.tuple [.int 1, .int 2], .text "overlap")])]

theorem wrapped_clash_not_readsBack :
    (plain .base "wrap").IsReadable ∧
      ((plain .base "wrap").raised (some (.report clash))).text =
        .error (.keyNotEncodable "tuple") ∧
      ¬((plain .base "wrap").raised (some (.report clash))).ReadsBack := by
  have readable : (plain .base "wrap").IsReadable := by
    refine ⟨⟨_, rfl⟩, ⟨_, rfl⟩, ?_, nofun⟩
    have empty : IsJson (.dict (Entries.ofNamed [])) := .dict List.nodup_nil nofun
    exact empty
  have blocked : ((plain .base "wrap").raised (some (.report clash))).text =
      .error (.keyNotEncodable "tuple") := rfl
  refine ⟨readable, blocked, ?_⟩
  rintro ⟨s, _, run, _⟩
  exact absurd (blocked.symm.trans run) nofun

end Report

end DocSpace
