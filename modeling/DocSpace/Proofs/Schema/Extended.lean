import DocSpace.Proofs.Schema.Violations

set_option autoImplicit false

namespace DocSpace

open Schema Query

namespace Schema

variable {s s' : Schema} {o : QueryOptions}

theorem unknownFields_eq_nil {clause : String} {names : List Value}
    (found : ∀ v ∈ names, ∃ hint, s.find? v = .ok (some hint)) :
    s.unknownFields clause names = .ok [] := by
  obtain ⟨pairs, run⟩ : ∃ pairs, names.mapM (fun n => do return (n, ← s.find? n)) =
      (.ok pairs : Except Fault _) := by
    refine exists_mapM_ok_iff.mpr fun v member => ?_
    obtain ⟨hint, own⟩ := found v member
    exact ⟨(v, some hint), by rw [own]; rfl⟩
  have none_left : pairs.filter (fun f => f.2.isNone) = [] := by
    refine List.filter_eq_nil_iff.mpr fun pair member => ?_
    obtain ⟨v, given, looked⟩ := exists_of_mem_mapM_eq_ok run member
    obtain ⟨hint, own⟩ := found v given
    rw [own] at looked
    obtain rfl := Except.ok.inj looked
    exact Bool.false_ne_true
  refine bind_eq_ok.mpr ⟨pairs, run, ?_⟩
  rw [none_left]
  rfl

theorem complaints_of_parts (filters : ∀ f ∈ o.filters.getD [], s.checkFilter f = .ok [])
    (select : s.checkNames "select" o.selections = .ok [])
    (relations : s.checkNames "relations" o.relations = .ok [])
    (sort : s.checkSortBy o.sortBy = .ok []) : s.complaints o = .ok [] := by
  have none_found : (o.filters.getD []).mapM s.checkFilter =
      .ok ((o.filters.getD []).map fun _ => []) := mapM_eq_ok_map filters
  rw [complaints, none_found, select, relations, sort]
  simp [bind, Except.bind, pure, Except.pure]

def Extends (s' s : Schema) : Prop :=
  ∀ n hint, s.fields.get? n = some hint → s'.fields.get? n = some hint

namespace Extends

theorem find?_eq (extended : s'.Extends s) {v : Value} {hint : Hint}
    (found : s.find? v = .ok (some hint)) : s'.find? v = .ok (some hint) := by
  unfold find? at found ⊢
  split at found
  · cases found
  · obtain ⟨n, text, field⟩ := Option.bind_eq_some_iff.mp (Except.ok.inj found)
    rw [lookup, text, Option.bind_some, extended n hint field]

theorem unknownFields_eq (extended : s'.Extends s) {clause : String} {names : List Value}
    (passed : s.unknownFields clause names = .ok []) : s'.unknownFields clause names = .ok [] := by
  refine unknownFields_eq_nil fun v member => ?_
  obtain ⟨hint, own⟩ := find?_of_unknownFields passed member
  exact ⟨hint, extended.find?_eq own⟩

theorem checkFilter_eq (extended : s'.Extends s) {f : Filter}
    (passed : s.checkFilter f = .ok []) : s'.checkFilter f = .ok [] := by
  obtain ⟨hint?, found, rest⟩ := bind_eq_ok.mp passed
  cases hint? with
  | none => exact absurd (Except.ok.inj rest) (List.cons_ne_nil _ _)
  | some hint => exact bind_eq_ok.mpr ⟨some hint, extended.find?_eq found, rest⟩

theorem checkNames_eq (extended : s'.Extends s) {clause : String} {names : Value}
    (passed : s.checkNames clause names = .ok []) : s'.checkNames clause names = .ok [] := by
  unfold checkNames at passed ⊢
  by_cases given : names.truthy = true
  · rw [if_pos given] at passed ⊢
    obtain ⟨items, parts, known⟩ := bind_eq_ok.mp passed
    exact bind_eq_ok.mpr ⟨items, parts, extended.unknownFields_eq known⟩
  · rw [if_neg given]
    rfl

theorem checkSortBy_eq (extended : s'.Extends s) {order : Option SortBy}
    (passed : s.checkSortBy order = .ok []) : s'.checkSortBy order = .ok [] := by
  cases order with
  | none => rfl
  | some order => exact extended.unknownFields_eq passed

/-- More fields do no harm to options that pass already. -/
theorem check_eq_ok (extended : s'.Extends s) (passed : s.check o = .ok ()) :
    s'.check o = .ok () := by
  obtain ⟨filters, select, relations, sort⟩ := complaints_eq_nil (Schema.check_eq_ok.mp passed)
  refine Schema.check_eq_ok.mpr (complaints_of_parts (fun f member => ?_)
    (extended.checkNames_eq select) (extended.checkNames_eq relations)
    (extended.checkSortBy_eq sort))
  exact extended.checkFilter_eq (filters f member)

end Extends

end Schema

namespace DocumentType

section HintsOf

variable {inMapping : Bool} {ds es : List Declaration} {hs : Named Hint}

end HintsOf

end DocumentType

namespace Schema

open DocumentType

variable {t : DocumentType} {s : Schema} {ds : List Declaration} {o : QueryOptions}

def tagged : Declaration :=
  ⟨.record, "Tagged", [("note", .hint .any), ("tags", .hint (.plain .list))]⟩

end Schema

end DocSpace
