import DocSpace.Json.Encode
import DocSpace.Proofs.Success
import DocSpace.Proofs.Value.Classes
import DocSpace.Proofs.Value.Within

set_option autoImplicit false

namespace DocSpace.Json

open Number Text

/-- A writer that has a text for everything but keys. -/
structure Style.IsLenient (style : Style) : Prop where
  notFinite : style.allowsNotFinite = true
  standIn : style.standIn.isSome = true

theorem isLenient_logStyle : logStyle.IsLenient := ⟨rfl, rfl⟩

theorem isLenient_reportStyle : reportStyle.IsLenient := ⟨rfl, rfl⟩

def keyClasses : List ClassType := [.text, .int, .double, .bool, .null]

def isKey (k : Value) : Bool := keyClasses.any fun c => k.isInstance c

/-- The key has no text, and a dictionary somewhere in the value has it. -/
def Clashes (v k : Value) : Prop :=
  isKey k = false ∧ ∃ es w, Value.Within (.dict es) v ∧ (k, w) ∈ es

section Clashes

variable {vs : List Value} {es : List (Value × Value)} {k : Value}

theorem clashes_list : Clashes (.list vs) k ↔ ∃ v ∈ vs, Clashes v k := by
  constructor
  · rintro ⟨odd, es, w, inside, entry⟩
    cases inside with
    | list member inside => exact ⟨_, member, odd, es, w, inside, entry⟩
  · rintro ⟨v, member, odd, es, w, inside, entry⟩
    exact ⟨odd, es, w, .list member inside, entry⟩

theorem clashes_tuple : Clashes (.tuple vs) k ↔ ∃ v ∈ vs, Clashes v k := by
  constructor
  · rintro ⟨odd, es, w, inside, entry⟩
    cases inside with
    | tuple member inside => exact ⟨_, member, odd, es, w, inside, entry⟩
  · rintro ⟨v, member, odd, es, w, inside, entry⟩
    exact ⟨odd, es, w, .tuple member inside, entry⟩

theorem clashes_dict :
    Clashes (.dict es) k ↔ ∃ e ∈ es, (e.1 = k ∧ isKey k = false) ∨ Clashes e.2 k := by
  constructor
  · rintro ⟨odd, fs, w, inside, entry⟩
    cases inside with
    | self => exact ⟨(k, w), entry, .inl ⟨rfl, odd⟩⟩
    | dict member inside => exact ⟨_, member, .inr ⟨odd, fs, w, inside, entry⟩⟩
  · rintro ⟨⟨name, v⟩, member, ⟨rfl, odd⟩ | ⟨odd, fs, w, inside, entry⟩⟩
    · exact ⟨odd, es, v, .self, member⟩
    · exact ⟨odd, fs, w, .dict member inside, entry⟩

/-- A value that holds no dictionary has no keys. -/
theorem not_clashes {v : Value} (single : ∀ es, ¬Value.Within (.dict es) v) (k : Value) :
    ¬Clashes v k := by
  rintro ⟨_, es, _, inside, _⟩
  exact single es inside

end Clashes

/-- The ways in which a writer ends that no key may stop but those in question: with what it writes
if there is none of them, or over one of them. -/
inductive Ends {α : Type} (clashes : Value → Prop) : Except Fault α → Prop where
  | written {a : α} (free : ∀ k, ¬clashes k) : Ends clashes (.ok a)
  | refused {k : Value} (clash : clashes k) :
      Ends clashes (.error (.keyNotEncodable k.qualifiedTypeName))

namespace Ends

variable {α β : Type} {P Q : Value → Prop} {x : Except Fault α}

theorem congr (ends : Ends P x) (same : ∀ k, P k ↔ Q k) : Ends Q x := by
  cases ends with
  | written free => exact .written fun k clash => free k ((same k).mpr clash)
  | refused clash => exact .refused ((same _).mp clash)

theorem bind {f : α → Except Fault β} (first : Ends P x) (next : ∀ a, Ends Q (f a)) :
    Ends (fun k => P k ∨ Q k) (x >>= f) := by
  cases first with
  | refused clash => exact .refused (.inl clash)
  | @written a free =>
      exact (next a).congr fun k => ⟨.inr, fun either => either.resolve_left (free k)⟩

theorem map (ends : Ends P x) (f : α → β) : Ends P (x >>= fun a => .ok (f a)) := by
  cases ends with
  | written free => exact .written free
  | refused clash => exact .refused clash

/-- A writer that fails does so over a key. -/
theorem exists_of_error (ends : Ends P x) {f : Fault} (run : x = .error f) :
    ∃ k, P k ∧ f = .keyNotEncodable k.qualifiedTypeName := by
  subst run
  cases ends with
  | refused clash => exact ⟨_, clash, rfl⟩

theorem exists_ok_iff (ends : Ends P x) : (∃ a, x = .ok a) ↔ ∀ k, ¬P k := by
  cases ends with
  | written free => exact iff_of_true ⟨_, rfl⟩ free
  | refused clash => exact iff_of_false nofun fun free => free _ clash

end Ends

section Lenient

variable {style : Style}

theorem exists_encodeDouble (lenient : style.IsLenient) (d : Double) :
    ∃ s, encodeDouble style d = .ok s := by
  cases d with
  | finite => exact ⟨_, rfl⟩
  | infinite | notANumber => exact ⟨_, if_pos lenient.notFinite⟩

theorem exists_encodeOther (lenient : style.IsLenient) (v : Value) :
    ∃ s, encodeOther style v = .ok s := by
  obtain ⟨shown, given⟩ := Option.isSome_iff_exists.mp lenient.standIn
  rw [encodeOther, given]
  exact ⟨_, rfl⟩

theorem keyText_ends (lenient : style.IsLenient) (key : Value) :
    Ends (fun k => key = k ∧ isKey k = false) (keyText style key) := by
  have named {s : String} (run : keyText style key = .ok s) (known : isKey key = true) :
      Ends (fun k => key = k ∧ isKey k = false) (keyText style key) := by
    rw [run]
    refine .written ?_
    rintro k ⟨rfl, odd⟩
    rw [known] at odd
    cases odd
  cases key with
  | double d =>
      obtain ⟨s, run⟩ := exists_encodeDouble lenient d
      exact named run rfl
  | null | bool _ | int _ | intMember _ _ _ | text _ | textMember _ _ _ =>
      exact named rfl rfl
  | bytes _ | day _ | moment _ | list _ | tuple _ | dict _ | member _ _ _ | record _ _ | type _ =>
      exact .refused ⟨rfl, rfl⟩

theorem ends_of_single {v : Value} (single : ∀ es, ¬Value.Within (.dict es) v)
    {run : Except Fault String} (written : ∃ s, run = .ok s) : Ends (Clashes v) run := by
  obtain ⟨s, rfl⟩ := written
  exact .written (not_clashes single)

mutual

/-- A lenient writer fails just over the keys of the value that have no text. -/
theorem encode_ends (lenient : style.IsLenient) : ∀ v : Value, Ends (Clashes v) (encode style v)
  | .list vs => by
      rw [encode]
      exact ((encodeItems_ends lenient vs).map _).congr fun k => clashes_list.symm
  | .tuple vs => by
      rw [encode]
      exact ((encodeItems_ends lenient vs).map _).congr fun k => clashes_tuple.symm
  | .dict es => by
      rw [encode]
      exact ((encodeEntries_ends lenient es).map _).congr fun k => clashes_dict.symm
  | .double d => ends_of_single (by rintro es ⟨⟩) (exists_encodeDouble lenient d)
  | .null | .bool _ | .int _ | .intMember _ _ _ | .text _ | .textMember _ _ _ =>
      ends_of_single (by rintro es ⟨⟩) ⟨_, rfl⟩
  | .bytes _ | .day _ | .moment _ | .member _ _ _ | .record _ _ | .type _ =>
      ends_of_single (by rintro es ⟨⟩) (exists_encodeOther lenient _)

theorem encodeItems_ends (lenient : style.IsLenient) :
    ∀ vs, Ends (fun k => ∃ v ∈ vs, Clashes v k) (encodeItems style vs)
  | [] => .written fun k clash => by simp at clash
  | v :: vs => by
      rw [encodeItems]
      refine ((encode_ends lenient v).bind fun s =>
        (encodeItems_ends lenient vs).map (s :: ·)).congr fun k => ?_
      rw [List.exists_mem_cons_iff]

theorem encodeEntries_ends (lenient : style.IsLenient) :
    ∀ es, Ends (fun k => ∃ e ∈ es, (e.1 = k ∧ isKey k = false) ∨ Clashes e.2 k)
      (encodeEntries style es)
  | [] => .written fun k clash => by simp at clash
  | (key, v) :: es => by
      rw [encodeEntries]
      refine ((keyText_ends lenient key).bind fun name => (encode_ends lenient v).bind fun s =>
        (encodeEntries_ends lenient es).map _).congr fun k => ?_
      rw [List.exists_mem_cons_iff, or_assoc]

end

end Lenient

end DocSpace.Json
