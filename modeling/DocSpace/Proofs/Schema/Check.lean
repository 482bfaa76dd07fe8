import DocSpace.Proofs.Schema.Names
import DocSpace.Proofs.Value.Sequence
import DocSpace.Schema.Check

set_option autoImplicit false

namespace DocSpace

namespace Query.QueryOptions

/-- All names that options give: of filters, selections, relations and the order. -/
def fieldNames (o : QueryOptions) : List String :=
  (o.filters.getD []).filterMap (·.field.asText?) ++ o.selections.texts ++ o.relations.texts ++
    o.sortBy.toList.filterMap (·.field.asText?)

end Query.QueryOptions

namespace Schema

open Query

variable {s : Schema} {o : QueryOptions}

theorem check_eq_ok : s.check o = .ok () ↔ s.complaints o = .ok [] := by
  unfold check
  rw [bind_eq_ok]
  constructor
  · rintro ⟨found, run, passed⟩
    split at passed
    · exact lift_eq_ok.mp run
    · cases passed
  · intro none_found
    exact ⟨[], lift_eq_ok.mpr none_found, rfl⟩

theorem contains_of_find? {v : Value} {n : String} {hint : Hint} (text : v.asText? = some n)
    (found : s.find? v = .ok (some hint)) : s.contains n = true := by
  unfold find? at found
  split at found
  · cases found
  · have looked : s.fields.get? n = some hint := by
      simpa only [lookup, text, Option.bind_some] using Except.ok.inj found
    rw [contains, ← Named.get?_isSome, looked]
    rfl

theorem find?_of_unknownFields {clause : String} {names : List Value}
    (passed : s.unknownFields clause names = .ok []) {v : Value} (member : v ∈ names) :
    ∃ hint, s.find? v = .ok (some hint) := by
  obtain ⟨found, run, none_left⟩ := bind_eq_ok.mp passed
  obtain ⟨f, hf, looked⟩ := exists_of_mapM_eq_ok run member
  obtain ⟨hint, look, same⟩ := bind_eq_ok.mp looked
  obtain rfl := Except.ok.inj same
  have kept := List.filter_eq_nil_iff.mp (List.map_eq_nil_iff.mp (Except.ok.inj none_left)) _ hf
  cases hint with
  | none => exact absurd rfl kept
  | some hint => exact ⟨hint, look⟩

theorem contains_of_checkNames {clause : String} {names : Value} {P : String → Prop}
    (shaped : names.AreTexts P) (passed : s.checkNames clause names = .ok []) :
    ∀ n ∈ names.texts, s.contains n = true := by
  intro n member
  obtain ⟨w, hw, text⟩ := Value.mem_texts member
  rcases shaped with rfl | ⟨vs, rfl, _⟩
  · exact absurd hw List.not_mem_nil
  · have filled : (Value.list vs).truthy = true := by
      cases vs with
      | nil => exact absurd hw List.not_mem_nil
      | cons v vs => rfl
    simp only [checkNames, filled, ↓reduceIte] at passed
    obtain ⟨hint, found⟩ := find?_of_unknownFields passed hw
    exact contains_of_find? text found

theorem contains_of_checkFilter {f : Filter} {n : String} (text : f.field.asText? = some n)
    (passed : s.checkFilter f = .ok []) : s.contains n = true := by
  obtain ⟨hint?, found, rest⟩ := bind_eq_ok.mp passed
  cases hint? with
  | none => exact absurd (Except.ok.inj rest) (List.cons_ne_nil _ _)
  | some hint => exact contains_of_find? text found

theorem contains_of_checkSortBy {order : SortBy} {n : String}
    (text : order.field.asText? = some n) (passed : s.checkSortBy (some order) = .ok []) :
    s.contains n = true := by
  obtain ⟨hint, found⟩ := find?_of_unknownFields passed List.mem_cons_self
  exact contains_of_find? text found

theorem complaints_eq_nil (passed : s.complaints o = .ok []) :
    (∀ f ∈ o.filters.getD [], s.checkFilter f = .ok []) ∧
      s.checkNames "select" o.selections = .ok [] ∧
      s.checkNames "relations" o.relations = .ok [] ∧ s.checkSortBy o.sortBy = .ok [] := by
  obtain ⟨filters, filterRun, passed⟩ := bind_eq_ok.mp passed
  obtain ⟨select, selectRun, passed⟩ := bind_eq_ok.mp passed
  obtain ⟨relations, relationsRun, passed⟩ := bind_eq_ok.mp passed
  obtain ⟨sort, sortRun, same⟩ := bind_eq_ok.mp passed
  have empty := Except.ok.inj same
  simp only [List.append_eq_nil_iff] at empty
  obtain ⟨⟨⟨filtersEmpty, rfl⟩, rfl⟩, rfl⟩ := empty
  refine ⟨?_, selectRun, relationsRun, sortRun⟩
  intro f member
  obtain ⟨found, hfound, own⟩ := exists_of_mapM_eq_ok filterRun member
  rw [own, List.flatten_eq_nil_iff.mp filtersEmpty found hfound]

/-- Options of a schema's own fields are all that passes. -/
theorem contains_of_check {P Q : String → Prop} (selections : o.selections.AreTexts P)
    (relations : o.relations.AreTexts Q) (passed : s.check o = .ok ()) :
    ∀ n ∈ o.fieldNames, s.contains n = true := by
  obtain ⟨filtersPass, selectPass, relationsPass, sortPass⟩ :=
    complaints_eq_nil (check_eq_ok.mp passed)
  intro n member
  simp only [QueryOptions.fieldNames, List.mem_append] at member
  rcases member with ((member | member) | member) | member
  · obtain ⟨f, hf, text⟩ := List.mem_filterMap.mp member
    exact contains_of_checkFilter text (filtersPass f hf)
  · exact contains_of_checkNames selections selectPass n member
  · exact contains_of_checkNames relations relationsPass n member
  · obtain ⟨order, present, text⟩ := List.mem_filterMap.mp member
    rw [Option.mem_toList.mp present] at sortPass
    exact contains_of_checkSortBy text sortPass

end Schema

end DocSpace
