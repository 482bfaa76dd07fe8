import DocSpace.Proofs.Success
import DocSpace.Value.Sequence

set_option autoImplicit false

namespace DocSpace.Value

def texts (v : Value) : List String := v.members.filterMap asText?

theorem textsFrom_of_texts {vs : List Value} (each : ∀ v ∈ vs, ∃ s, v.asText? = some s)
    (index : Nat) : textsFrom index vs = .ok (vs.filterMap asText?) := by
  induction vs generalizing index with
  | nil => rfl
  | cons v vs ih =>
      obtain ⟨s, hs⟩ := each v List.mem_cons_self
      have rest := ih (fun w hw => each w (List.mem_cons_of_mem v hw)) (index + 1)
      simp only [textsFrom, hs, rest, List.filterMap_cons]
      rfl

theorem join_list {vs : List Value} (each : ∀ v ∈ vs, ∃ s, v.asText? = some s) (sep : String) :
    (list vs).join sep = .ok (Text.joined sep (list vs).texts) := by
  simp only [join, items?, texts, members, textsFrom_of_texts each]
  rfl

theorem textsFrom_eq_ok {index : Nat} {vs : List Value} {ss : List String}
    (run : textsFrom index vs = .ok ss) : vs.map asText? = ss.map some := by
  induction vs generalizing index ss with
  | nil => rw [← Except.ok.inj run]; rfl
  | cons v vs ih =>
      unfold textsFrom at run
      split at run
      · next s text =>
          obtain ⟨rest, others, same⟩ := bind_eq_ok.mp run
          rw [← Except.ok.inj same, List.map_cons, List.map_cons, text, ih others]
      · cases run

theorem join_eq_ok {v : Value} {sep s : String} (run : v.join sep = .ok s) :
    ∃ vs ss, v.items? = some vs ∧ vs.map asText? = ss.map some ∧ s = Text.joined sep ss := by
  unfold join at run
  split at run
  · next vs parts =>
      obtain ⟨ss, texts, same⟩ := bind_eq_ok.mp run
      exact ⟨vs, ss, parts, textsFrom_eq_ok texts, (Except.ok.inj same).symm⟩
  · cases run

theorem mem_texts {v : Value} {s : String} (member : s ∈ v.texts) :
    ∃ w ∈ v.members, w.asText? = some s := by
  obtain ⟨w, hw, text⟩ := List.mem_filterMap.mp member
  exact ⟨w, hw, text⟩

theorem texts_list_eq_nil {vs : List Value} (each : ∀ v ∈ vs, ∃ s, v.asText? = some s) :
    (list vs).texts = [] ↔ vs = [] := by
  simp only [texts, members, List.filterMap_eq_nil_iff]
  constructor
  · intro none_text
    cases vs with
    | nil => rfl
    | cons v vs =>
        obtain ⟨s, hs⟩ := each v List.mem_cons_self
        exact absurd (none_text v List.mem_cons_self) (by rw [hs]; exact Option.some_ne_none s)
  · rintro rfl
    exact fun v member => absurd member List.not_mem_nil

/-- `null`, or a list of texts with a property. -/
def AreTexts (P : String → Prop) (v : Value) : Prop :=
  v = null ∨ ∃ vs, v = list vs ∧ ∀ w ∈ vs, ∃ s, w.asText? = some s ∧ P s

variable {P : String → Prop} {v : Value}

theorem AreTexts.texts (shaped : AreTexts P v) : ∀ s ∈ v.texts, P s := by
  intro s member
  obtain ⟨w, hw, text⟩ := mem_texts member
  rcases shaped with rfl | ⟨vs, rfl, each⟩
  · exact absurd hw List.not_mem_nil
  · obtain ⟨t, ht, holds⟩ := each w hw
    rwa [Option.some.inj (text.symm.trans ht)]

theorem AreTexts.truthy (shaped : AreTexts P v) : v.truthy = true ↔ v.texts ≠ [] := by
  rcases shaped with rfl | ⟨vs, rfl, each⟩
  · exact iff_of_false (by decide) (fun filled => filled rfl)
  · rw [ne_eq, texts_list_eq_nil fun w hw => (each w hw).imp fun _ holds => holds.1]
    simp only [Value.truthy, Bool.not_eq_true', List.isEmpty_eq_false_iff, ne_eq]

theorem AreTexts.join (shaped : AreTexts P v) (some_list : v.isNull = false) (sep : String) :
    v.join sep = .ok (Text.joined sep v.texts) := by
  rcases shaped with rfl | ⟨vs, rfl, each⟩
  · exact absurd some_list (by decide)
  · exact join_list (fun w hw => (each w hw).imp fun _ holds => holds.1) sep

theorem isNull_eq_false_of_truthy (filled : v.truthy = true) : v.isNull = false := by
  cases v <;> first | rfl | exact absurd filled (by decide)

end DocSpace.Value
