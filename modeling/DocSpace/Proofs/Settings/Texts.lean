import DocSpace.Proofs.Text.Blank
import DocSpace.Proofs.Text.Pieces
import DocSpace.Settings.Coercion

set_option autoImplicit false

namespace DocSpace.Settings

open Text

/-- A text that a list can hold: something, without commas, and trimmed. -/
structure IsItem (s : String) : Prop where
  filled : s ≠ ""
  single : ',' ∉ s.toList
  trimmed : IsTrimmed s.toList

variable {s raw : String} {ss : List String}

theorem isItem_of_mem_readTexts (member : s ∈ readTexts raw) : IsItem s := by
  obtain ⟨cs, kept, rfl⟩ := List.mem_map.mp member
  obtain ⟨piece, some_char⟩ := List.mem_filter.mp kept
  obtain ⟨p, cut, rfl⟩ := List.mem_map.mp piece
  refine ⟨fun empty => ?_, fun comma => ?_, ?_⟩
  · rw [String.ofList_eq_empty_iff.mp empty] at some_char
    cases some_char
  · rw [String.toList_ofList] at comma
    exact not_mem_of_mem_pieces cut ((isInfix_trim p).subset comma)
  · rw [String.toList_ofList]
    exact isTrimmed_trim p

theorem IsItem.toList_ne_nil (item : IsItem s) : s.toList ≠ [] :=
  fun empty => item.filled (String.toList_eq_nil_iff.mp empty)

/-- Of items nothing is trimmed, and none is left out. -/
theorem readTexts_joined (each : ∀ s ∈ ss, IsItem s) : readTexts (joined "," ss) = ss := by
  by_cases none_given : ss = []
  · rw [none_given]
    rfl
  · have cut : pieces ',' (joined "," ss).toList = ss.map String.toList :=
      pieces_joined rfl none_given fun s member => (each s member).single
    have trimmed : (ss.map String.toList).map trim = ss.map String.toList := by
      rw [List.map_map]
      exact List.map_congr_left fun s member => (each s member).trimmed.trim_eq
    have filled : (ss.map String.toList).filter (!·.isEmpty) = ss.map String.toList := by
      refine List.filter_eq_self.mpr fun cs member => ?_
      obtain ⟨s, given, rfl⟩ := List.mem_map.mp member
      rw [Bool.not_eq_true', List.isEmpty_eq_false_iff]
      exact (each s given).toList_ne_nil
    rw [readTexts, cut, trimmed, filled, List.map_map]
    exact List.map_id'' (fun s => String.ofList_toList) ss

/-- A variable is read as a list of items, and the join of the list is read as the same list again.
Every list of items is read from its join, the empty one included. -/
theorem coerce_joined_texts (shown : String) :
    (∀ raw, ∃ ss, coerce (.hint (.items shown)) raw = .ok (.list (ss.map .text)) ∧
        (∀ s ∈ ss, IsItem s) ∧
        coerce (.hint (.items shown)) (joined "," ss) = coerce (.hint (.items shown)) raw) ∧
      ∀ ss, (∀ s ∈ ss, IsItem s) →
        coerce (.hint (.items shown)) (joined "," ss) = .ok (.list (ss.map .text)) := by
  have read (raw : String) :
      coerce (.hint (.items shown)) raw = .ok (.list ((readTexts raw).map .text)) := rfl
  have undone (ss : List String) (each : ∀ s ∈ ss, IsItem s) :
      coerce (.hint (.items shown)) (joined "," ss) = .ok (.list (ss.map .text)) := by
    rw [read, readTexts_joined each]
  refine ⟨fun raw => ?_, undone⟩
  have each : ∀ s ∈ readTexts raw, IsItem s := fun s => isItem_of_mem_readTexts
  exact ⟨readTexts raw, read raw, each, (undone _ each).trans (read raw).symm⟩

def cities : List String := ["new york", "köln", "東"]

theorem isItem_of_mem_cities : ∀ s ∈ cities, IsItem s := by
  intro s member
  simp only [cities, List.mem_cons, List.not_mem_nil, or_false] at member
  rcases member with rfl | rfl | rfl
  all_goals
    refine ⟨by decide, by decide, fun c first => ?_, fun c last => ?_⟩
    · cases first
      decide
    · cases last
      decide

/-- Commas and white space around the names, that of other scripts included, make no difference. -/
theorem cities_coerce_joined :
    (∀ s ∈ cities, IsItem s) ∧
      coerce (.hint (.items "list[str]")) "new york,köln,東" =
        .ok (.list [.text "new york", .text "köln", .text "東"]) ∧
      coerce (.hint (.items "list[str]")) ",\u3000new york ,\t, köln,\u0085東\n" =
        coerce (.hint (.items "list[str]")) "new york,köln,東" := by
  have whole := (coerce_joined_texts "list[str]").2 cities isItem_of_mem_cities
  exact ⟨isItem_of_mem_cities, whole, rfl⟩

end DocSpace.Settings
